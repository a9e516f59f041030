import PacketFilter.Engine.Reload

/-! A subnet printed for `add_to_blacklist` reads back as the same subnet. -/

namespace PacketFilter.Engine

open Library Library.Programs Library.Scanning Kernel Prog
open Config (Sys SysProg)

def digits (n : ℕ) : Text :=
  if n < 10 then [Nat.digitChar n]
  else if n < 100 then [Nat.digitChar (n / 10), Nat.digitChar (n % 10)]
  else [Nat.digitChar (n / 100), Nat.digitChar (n / 10 % 10), Nat.digitChar (n % 10)]

lemma printNat_eq {n : ℕ} (h : n < 256) : printNat n = digits n := by
  have hall : ∀ k : Fin 256, printNat k = digits k := by decide +kernel
  exact hall ⟨n, h⟩

lemma digitChar_spec {k : ℕ} (h : k < 10) : (Nat.digitChar k).isDigit ∧ digit (Nat.digitChar k) = k := by
  have hall : ∀ k : Fin 10, (Nat.digitChar k).isDigit ∧ digit (Nat.digitChar k) = k := by decide
  exact hall ⟨k, h⟩

section Reading

variable {o cur k : ℕ} {done : List ℕ}

lemma step_first (ho : o < 4) (hk : k < 10) :
    Quad.step ⟨o, false, 0, done⟩ (Nat.digitChar k) = some ⟨o + 1, true, k, done⟩ := by
  obtain ⟨hd, hv⟩ := digitChar_spec hk
  simp [Quad.step, hd, hv, show ¬ 255 < k by omega, show o ≠ 4 by omega]

lemma step_more (hc : cur ≠ 0) (hk : k < 10) (hle : cur * 10 + k ≤ 255) :
    Quad.step ⟨o, true, cur, done⟩ (Nat.digitChar k) = some ⟨o, true, cur * 10 + k, done⟩ := by
  obtain ⟨hd, hv⟩ := digitChar_spec hk
  simp [Quad.step, hd, hv, hc, show ¬ 255 < cur * 10 + k by omega]

lemma step_dot (ho : o < 4) :
    Quad.step ⟨o, true, cur, done⟩ '.' = some ⟨o, false, 0, done ++ [cur]⟩ := by
  simp [Quad.step, show o ≠ 4 by omega]

lemma foldlM_digits {n : ℕ} (hn : n < 256) (ho : o < 4) :
    (digits n).foldlM Quad.step ⟨o, false, 0, done⟩ = some ⟨o + 1, true, n, done⟩ := by
  unfold digits
  split_ifs with h1 h2
  · simp [step_first ho h1]
  · have hs : Quad.step ⟨o + 1, true, n / 10, done⟩ (Nat.digitChar (n % 10)) = _ :=
      step_more (by omega) (by omega) (by omega)
    simp [step_first ho (show n / 10 < 10 by omega), hs, Nat.div_add_mod' n 10]
  · have hs : Quad.step ⟨o + 1, true, n / 100, done⟩ (Nat.digitChar (n / 10 % 10)) = _ :=
      step_more (by omega) (by omega) (by omega)
    have ht : Quad.step ⟨o + 1, true, n / 100 * 10 + n / 10 % 10, done⟩ (Nat.digitChar (n % 10)) = _ :=
      step_more (by omega) (by omega) (by omega)
    have hv : (n / 100 * 10 + n / 10 % 10) * 10 + n % 10 = n := by omega
    simp [step_first ho (show n / 100 < 10 by omega), hs, ht, hv]

lemma foldlM_field {n : ℕ} (hn : n < 256) (ho : o + 1 < 4) (rest : Text) :
    (printNat n ++ '.' :: rest).foldlM Quad.step ⟨o, false, 0, done⟩ =
      rest.foldlM Quad.step ⟨o + 1, false, 0, done ++ [n]⟩ := by
  rw [printNat_eq hn, List.foldlM_append, foldlM_digits hn (by omega)]
  simp [step_dot ho]

end Reading

lemma octet_lt (a : Addr) (i : ℕ) : octet a i < 256 := Nat.mod_lt _ (by norm_num)

lemma octets_value (a : Addr) :
    ((octet a 3 * 256 + octet a 2) * 256 + octet a 1) * 256 + octet a 0 = a.toNat := by
  have h := a.isLt
  norm_num [octet]
  omega

lemma foldlM_inetNtoa (a : Addr) :
    (inetNtoa a).foldlM Quad.step ⟨0, false, 0, []⟩ =
      some ⟨4, true, octet a 0, [octet a 3, octet a 2, octet a 1]⟩ := by
  have hl : inetNtoa a = printNat (octet a 3) ++ '.' :: (printNat (octet a 2) ++ '.' ::
      (printNat (octet a 1) ++ '.' :: printNat (octet a 0))) := by simp [inetNtoa]
  rw [hl, foldlM_field (octet_lt a 3) (by norm_num), foldlM_field (octet_lt a 2) (by norm_num),
    foldlM_field (octet_lt a 1) (by norm_num), printNat_eq (octet_lt a 0),
      foldlM_digits (octet_lt a 0) (by norm_num)]
  rfl

lemma mem_printNat {n : ℕ} (hn : n < 256) {c : Char} (hc : c ∈ printNat n) : c.isDigit := by
  have hall : ∀ k : Fin 256, (printNat k).all Char.isDigit := by decide +kernel
  exact List.all_eq_true.mp (hall ⟨n, hn⟩) c hc

lemma length_printNat {n : ℕ} (hn : n < 256) : (printNat n).length ≤ 3 := by
  have hall : ∀ k : Fin 256, (printNat k).length ≤ 3 := by decide +kernel
  exact hall ⟨n, hn⟩

lemma mem_inetNtoa {a : Addr} {c : Char} (hc : c ∈ inetNtoa a) : c.isDigit ∨ c = '.' := by
  simp only [inetNtoa, List.mem_append, List.mem_cons] at hc
  rcases hc with ((hc | rfl | hc) | rfl | hc) | rfl | hc
  · exact Or.inl (mem_printNat (octet_lt a 3) hc)
  · exact Or.inr rfl
  · exact Or.inl (mem_printNat (octet_lt a 2) hc)
  · exact Or.inr rfl
  · exact Or.inl (mem_printNat (octet_lt a 1) hc)
  · exact Or.inr rfl
  · exact Or.inl (mem_printNat (octet_lt a 0) hc)

lemma ne_of_mem_inetNtoa {a : Addr} {c d : Char} (hc : c ∈ inetNtoa a) (hd : d.isDigit = false ∧ d ≠ '.') :
    c ≠ d := by
  rintro rfl
  rcases mem_inetNtoa hc with h | h
  · rw [hd.1] at h
    cases h
  · exact hd.2 h

lemma length_inetNtoa (a : Addr) : (inetNtoa a).length ≤ 15 := by
  have h0 := length_printNat (octet_lt a 0)
  have h1 := length_printNat (octet_lt a 1)
  have h2 := length_printNat (octet_lt a 2)
  have h3 := length_printNat (octet_lt a 3)
  simp only [inetNtoa, List.length_append, List.length_cons]
  omega

lemma inetPton_inetNtoa (a : Addr) : inetPton (inetNtoa a) = some a := by
  have hc : cString (inetNtoa a) = inetNtoa a := by
    rw [cString, List.takeWhile_eq_self_iff]
    intro c hc
    simpa using ne_of_mem_inetNtoa hc (by decide)
  rw [inetPton, hc, foldlM_inetNtoa]
  have hv : 256 * (256 * (256 * octet a 3 + octet a 2) + octet a 1) + octet a 0 = a.toNat := by
    have ho := octets_value a
    omega
  simp [hv]

lemma subnetStrBuf_eq (node : SubnetNode) :
    subnetStrBuf node.key = inetNtoa node.key.ip ++ '/' :: printNat node.key.prefixlen.toNat := by
  have h1 := length_inetNtoa node.key.ip
  have h2 := length_printNat (show node.key.prefixlen.toNat < 256 by have := node.le; omega)
  rw [subnetStrBuf, List.take_of_length_le]
  simp only [List.length_append, List.length_cons, INET_ADDRSTRLEN]
  omega

lemma stoi_printNat {n : ℕ} (hn : n ≤ 32) : stoi (printNat n) = some (n : ℤ) := by
  have hall : ∀ k : Fin 33, stoi (printNat k) = some (k : ℤ) := by decide +kernel
  exact hall ⟨n, by omega⟩

lemma splitSubnet_subnetStrBuf (node : SubnetNode) :
    splitSubnet (subnetStrBuf node.key) = (inetNtoa node.key.ip, some (node.key.prefixlen.toNat : ℤ)) := by
  have hne : ∀ c ∈ inetNtoa node.key.ip, c ≠ '/' := fun c hc => ne_of_mem_inetNtoa hc (by decide)
  have hs : splitFirst '/' (subnetStrBuf node.key) =
      some (inetNtoa node.key.ip, printNat node.key.prefixlen.toNat) := by
    rw [subnetStrBuf_eq, splitFirst, if_pos (by simp), List.takeWhile_append_of_pos (by simpa using hne),
      List.dropWhile_append_of_pos (by simpa using hne)]
    simp
  simp only [splitSubnet, hs, stoi_printNat node.le]

lemma addToBlacklist_subnetStrBuf (mapFd : ℤ) (node : SubnetNode) :
    addToBlacklist mapFd (subnetStrBuf node.key) = do
      if Config.updated (← Config.sys (.updateSubnets .blacklist mapFd node.key 1)) then return .returned 0
      else return .returned (-1) := by
  have hk : (BitVec.ofInt 32 (node.key.prefixlen.toNat : ℤ)) = node.key.prefixlen := by simp
  have hle : (0 : ℤ) ≤ node.key.prefixlen.toNat ∧ (node.key.prefixlen.toNat : ℤ) ≤ 32 := by
    have h := node.le
    omega
  have ht : (inetNtoa node.key.ip).take (INET_ADDRSTRLEN - 1) = inetNtoa node.key.ip :=
    List.take_of_length_le (length_inetNtoa _)
  simp only [addToBlacklist, splitSubnet_subnetStrBuf, ht, subnetNode, inetPton_inetNtoa, dif_pos hle, hk]

lemma subnetStrBuf_injective : Function.Injective (fun node : SubnetNode => subnetStrBuf node.key) := by
  intro node node' h
  have hs : splitSubnet (subnetStrBuf node.key) = splitSubnet (subnetStrBuf node'.key) := congrArg splitSubnet h
  rw [splitSubnet_subnetStrBuf, splitSubnet_subnetStrBuf, Prod.mk.injEq, Option.some.injEq, Nat.cast_inj] at hs
  obtain ⟨htext, hlen⟩ := hs
  have hip : node.key.ip = node'.key.ip := by
    have hp := congrArg inetPton htext
    rw [inetPton_inetNtoa, inetPton_inetNtoa] at hp
    exact Option.some.inj hp
  have hprefix : node.key.prefixlen = node'.key.prefixlen := BitVec.eq_of_toNat_eq hlen
  obtain ⟨⟨len, ip⟩, hle⟩ := node
  obtain ⟨⟨len', ip'⟩, hle'⟩ := node'
  cases hip
  cases hprefix
  rfl

theorem subnet_text_round_trip (mapFd : ℤ) :
    (∀ node : SubnetNode,
      (inetNtoa node.key.ip ++ '/' :: printNat node.key.prefixlen.toNat).length < INET_ADDRSTRLEN + 4 ∧
      subnetStrBuf node.key = inetNtoa node.key.ip ++ '/' :: printNat node.key.prefixlen.toNat ∧
      addToBlacklist mapFd (subnetStrBuf node.key) = do
        if Config.updated (← Config.sys (.updateSubnets .blacklist mapFd node.key 1)) then return .returned 0
        else return .returned (-1)) ∧
    Function.Injective (fun node : SubnetNode => subnetStrBuf node.key) := by
  refine ⟨?_, subnetStrBuf_injective⟩
  intro node
  have h1 := length_inetNtoa node.key.ip
  have h2 := length_printNat (show node.key.prefixlen.toNat < 256 by have := node.le; omega)
  refine ⟨?_, subnetStrBuf_eq node, addToBlacklist_subnetStrBuf mapFd node⟩
  simp only [List.length_append, List.length_cons, INET_ADDRSTRLEN]
  omega

end PacketFilter.Engine
