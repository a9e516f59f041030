import PacketFilter.Config.Streams
import PacketFilter.Library.Words

/-! The documented grammar of the commands, and the text that `updateConfig` overlooks. -/

namespace PacketFilter.Config

open Library Library.Programs Library.Scanning Kernel Prog

variable {N : ℕ}

def Digits (s : Text) : Prop := s ≠ [] ∧ ∀ c ∈ s, c.isDigit

def IsAddress (s : Text) : Prop := (inetPton s).isSome ∧ '\x00' ∉ s

def IsSubnet (s : Text) : Prop := ∃ x ∈ splitFirst '/' s, IsAddress x.1 ∧ Digits x.2

def Switches (message : Text) : Prop := words message = [ENABLED] ∨ words message = [DISABLED]

/-- The message is a sentence of the grammar: no further words, and numbers made of digits only. -/
def Conforms : Kind → Text → Prop
  | .subnets _, message =>
      Switches message ∨ ∃ command subnet, words message = [command, subnet] ∧
        (command = ADD ∨ command = REMOVE) ∧ IsSubnet subnet
  | .ratelimit, message =>
      Switches message ∨ (∃ ip pps, words message = [ADD, ip, pps] ∧ IsAddress ip ∧ Digits pps) ∨
        ∃ ip, words message = [REMOVE, ip] ∧ IsAddress ip

def NotDigits (s : Text) : Prop := ∃ c ∈ s, ¬ c.isDigit

def SwitchWord (message : Text) : Prop := word 0 message = ENABLED ∨ word 0 message = DISABLED

/-- The words that are read make a command, and there is text besides them or inside them that is not. -/
def Sloppy : Kind → Text → Prop
  | .subnets _, message =>
      (SwitchWord message ∧ word 1 message ≠ []) ∨
      ((word 0 message = ADD ∨ word 0 message = REMOVE) ∧ (parseSubnet (word 1 message)).isSome ∧
        (word 2 message ≠ [] ∨ ∃ x ∈ splitFirst '/' (word 1 message), '\x00' ∈ x.1 ∨ NotDigits x.2))
  | .ratelimit, message =>
      (SwitchWord message ∧ word 1 message ≠ []) ∨
      (word 0 message = ADD ∧ (inetPton (word 1 message)).isSome ∧
        (∃ p ∈ extractUint32 (word 2 message), p ≠ 0) ∧
        (word 3 message ≠ [] ∨ '\x00' ∈ word 1 message ∨ NotDigits (word 2 message))) ∨
      (word 0 message = REMOVE ∧ (inetPton (word 1 message)).isSome ∧
        (word 2 message ≠ [] ∨ '\x00' ∈ word 1 message))

section Accepting

def ConfigType.ready : Kind → ConfigType
  | .subnets l => .subnets l ⟨3, 4⟩
  | .ratelimit => .ratelimit ⟨3, 4⟩

lemma kind_ready (k : Kind) : (ConfigType.ready k).kind = k := by
  cases k <;> rfl

abbrev ready : Host 1 := ⟨.zeroed, 0, []⟩

abbrev faultless : Faults 1 := fun _ _ _ => false

lemma exec_ready {op : Sys} (hop : ∀ note, op ≠ .report note) (hfd : 0 ≤ op.fd) :
    (op.exec faultless ready).1 = (op.apply ready.settings).map (fun _ => ()) := by
  rw [exec_of_ne_report hop, if_neg (not_lt.mpr hfd), if_neg (by simp)]
  cases op.apply ready.settings <;> rfl

lemma updated_ready {op : Sys} (hop : ∀ note, op ≠ .report note) (hfd : 0 ≤ op.fd)
    (h : ∃ s, op.apply ready.settings = .ok s) :
    (run (Sys.exec faultless) (do return updated (← sys op)) ready).1 = true := by
  obtain ⟨s, hs⟩ := h
  have hanswer : (op.exec faultless ready).1 = .ok () := by
    rw [exec_ready hop hfd, hs]
    rfl
  exact congrArg updated hanswer

lemma deleted_ready {op : Sys} (hop : ∀ note, op ≠ .report note) (hfd : 0 ≤ op.fd)
    (h : op.apply ready.settings = .error .ENOENT) :
    (run (Sys.exec faultless) (do return deleted (← sys op)) ready).1 = true := by
  have hanswer : (op.exec faultless ready).1 = .error .ENOENT := by
    rw [exec_ready hop hfd, h]
    rfl
  exact congrArg deleted hanswer

lemma accepts_subnets {l : SubnetList} {message : Text} {c : Command} (h : readSubnetCommand l message = some c) :
    (run (Sys.exec faultless) (l.updateConfig ⟨3, 4⟩ message) ready).1 = true := by
  have hsubnets : subnets ready.settings l = .empty := by cases l <;> rfl
  have hreads := l.reads ⟨3, 4⟩ message
  rw [h] at hreads
  generalize l.updateConfig ⟨3, 4⟩ message = p at hreads ⊢
  cases hreads with
  | flag on => cases l <;> rfl
  | @add key net hn =>
    obtain ⟨m, hm, -⟩ : ∃ m : SubnetsMap 1, BoundedMap.empty.update net 1 = some m ∧ m.get? net = some 1 :=
      BoundedMap.exists_update_empty net 1
    refine updated_ready (by simp) (by simp [Sys.fd]) ⟨setSubnets ready.settings l m, ?_⟩
    simp only [Sys.apply, hn, hsubnets, hm]
  | @remove key net hn =>
    refine deleted_ready (by simp) (by simp [Sys.fd]) ?_
    simp only [Sys.apply, hn, hsubnets]
    rfl

lemma accepts_ratelimit {message : Text} {c : Command} (h : readRateCommand message = some c) :
    (run (Sys.exec faultless) (RateLimit.updateConfig ⟨3, 4⟩ message) ready).1 = true := by
  have hreads := RateLimit.reads ⟨3, 4⟩ message
  rw [h] at hreads
  generalize RateLimit.updateConfig ⟨3, 4⟩ message = p at hreads ⊢
  cases hreads with
  | flag on => rfl
  | @add ip p hp =>
    rw [RateLimit.addRateLimit, if_neg hp]
    obtain ⟨m, hm, -⟩ : ∃ m : BoundedMap Addr IpRateLimit 1,
      BoundedMap.empty.update ip (rateLimitConfig p) = some m ∧
        m.get? ip = some (rateLimitConfig p) := BoundedMap.exists_update_empty ip _
    refine updated_ready (by simp) (by simp [Sys.fd]) ⟨{ ready.settings with ipRateLimits := m }, ?_⟩
    simp only [Sys.apply, Settings.zeroed, hm]
  | remove ip => exact deleted_ready (by simp) (by simp [Sys.fd]) rfl

lemma accepts_ready {k : Kind} {message : Text} {c : Command} (h : readCommand k message = some c) :
    (run (Sys.exec faultless) ((ConfigType.ready k).updateConfig message) ready).1 = true := by
  cases k with
  | subnets l => cases l <;> exact accepts_subnets h
  | ratelimit => exact accepts_ratelimit h

lemma read_of_accepted {faults : Faults N} {c : ConfigType} {message : Text} {h : Host N}
    (ha : (run (Sys.exec faults) (c.updateConfig message) h).1 = true) : (readCommand c.kind message).isSome := by
  have hcarries := (carries_configType faults c message h).2
  rw [ha] at hcarries
  obtain ⟨cmd, hcmd, -⟩ := hcarries
  rw [hcmd]
  rfl

end Accepting

section Reading

variable {message : Text}

lemma SwitchWord.ne {s : Text} (h : SwitchWord message) (hs : s ≠ ENABLED ∧ s ≠ DISABLED) :
    word 0 message ≠ s := by
  rintro rfl
  exact h.elim hs.1 hs.2

lemma add_ne : ADD ≠ ENABLED ∧ ADD ≠ DISABLED := by decide

lemma remove_ne : REMOVE ≠ ENABLED ∧ REMOVE ≠ DISABLED := by decide

lemma not_switchWord (h : word 0 message = ADD ∨ word 0 message = REMOVE) : ¬ SwitchWord message := by
  intro hs
  rcases h with h | h
  · exact hs.ne add_ne h
  · exact hs.ne remove_ne h

lemma switches_iff : Switches message ↔ SwitchWord message ∧ word 1 message = [] := by
  have he : ENABLED ≠ [] := by decide
  have hd : DISABLED ≠ [] := by decide
  simp only [Switches, SwitchWord, words_one, he, hd, ne_eq, not_false_eq_true, true_and, or_and_right]

lemma conforms_switch (k : Kind) (h : SwitchWord message) : Conforms k message ↔ word 1 message = [] := by
  have hnot : ∀ {ws}, words message ≠ ADD :: ws ∧ words message ≠ REMOVE :: ws := by
    intro ws
    exact ⟨fun hw => h.ne add_ne (words_eq_cons.mp hw).1, fun hw => h.ne remove_ne (words_eq_cons.mp hw).1⟩
  have hswitch : Switches message ↔ word 1 message = [] := by
    rw [switches_iff]
    exact and_iff_right h
  cases k with
  | subnets l =>
    rw [Conforms, hswitch, or_iff_left]
    rintro ⟨command, subnet, hw, rfl | rfl, -⟩
    · exact hnot.1 hw
    · exact hnot.2 hw
  | ratelimit =>
    rw [Conforms, hswitch, or_iff_left]
    rintro (⟨ip, pps, hw, -⟩ | ⟨ip, hw, -⟩)
    · exact hnot.1 hw
    · exact hnot.2 hw

lemma readSubnetCommand_isSome (l : SubnetList) : (readSubnetCommand l message).isSome ↔
    SwitchWord message ∨
      ((word 0 message = ADD ∨ word 0 message = REMOVE) ∧ (parseSubnet (word 1 message)).isSome) := by
  simp only [readSubnetCommand, SwitchWord, word]
  by_cases h1 : (token message).1 = ENABLED
  · simp [h1]
  by_cases h2 : (token message).1 = DISABLED
  · rw [if_neg h1, if_pos h2]
    simp [h2]
  simp only [h1, h2, if_false, or_self, false_or]
  cases hp : parseSubnet (token (token message).2).1 with
  | none => simp
  | some key =>
    obtain ⟨net, hn⟩ := parseSubnet_network hp
    simp only [Option.bind_some, hn, Option.isSome_some, and_true]
    split_ifs with h3 h4 <;> simp [*]

lemma extractUint32_token (s : Text) : extractUint32 (token s).1 = extractUint32 s := by
  rw [extractUint32_eq, extractUint32_rest]

lemma readRateCommand_isSome : (readRateCommand message).isSome ↔
    SwitchWord message ∨
      (word 0 message = ADD ∧ (inetPton (word 1 message)).isSome ∧ ∃ p ∈ extractUint32 (word 2 message), p ≠ 0) ∨
      (word 0 message = REMOVE ∧ (inetPton (word 1 message)).isSome) := by
  have hne : REMOVE ≠ ADD := by decide
  simp only [readRateCommand, SwitchWord, word, extractUint32_token]
  by_cases h1 : (token message).1 = ENABLED
  · simp [h1]
  by_cases h2 : (token message).1 = DISABLED
  · rw [if_neg h1, if_pos h2]
    simp [h2]
  simp only [h1, h2, if_false, or_self, false_or]
  cases inetPton (token (token message).2).1 with
  | none => simp
  | some ip =>
    simp only [Option.isSome_some, true_and, and_true]
    by_cases h3 : (token message).1 = ADD
    · simp only [h3, if_true, true_and, hne.symm, or_false]
      cases extractUint32 (token (token message).2).2 with
      | none => simp
      | some p => by_cases hp : p = 0 <;> simp [hp]
    · simp only [h3, if_false, false_and, false_or]
      split_ifs with h4 <;> simp [h4]

lemma parseSubnet_parts {s : Text} (h : (parseSubnet s).isSome) :
    ∃ x ∈ splitFirst '/' s, (inetPton x.1).isSome ∧ x.2 ≠ [] := by
  unfold parseSubnet at h
  split at h
  · cases h
  · rename_i ipStr prefixStr hsplit
    refine ⟨(ipStr, prefixStr), hsplit, ?_⟩
    split at h
    · cases h
    · rename_i ip hip
      refine ⟨by simp [hip], ?_⟩
      rintro rfl
      cases h

lemma isSubnet_iff {s : Text} (h : (parseSubnet s).isSome) :
    IsSubnet s ↔ ¬ ∃ x ∈ splitFirst '/' s, '\x00' ∈ x.1 ∨ NotDigits x.2 := by
  obtain ⟨x, hx, haddress, hdigits⟩ := parseSubnet_parts h
  have hsplit : splitFirst '/' s = some x := hx
  simp only [IsSubnet, hsplit, Option.mem_def, Option.some.injEq, exists_eq_left', IsAddress, Digits,
    haddress, hdigits,
    NotDigits, ne_eq, not_false_eq_true, true_and, not_or, not_exists, not_and, not_not]

lemma ne_nil_of_parseSubnet {s : Text} (h : (parseSubnet s).isSome) : s ≠ [] := by
  rintro rfl
  cases h

lemma conforms_subnet (l : SubnetList) (h : word 0 message = ADD ∨ word 0 message = REMOVE)
    (hp : (parseSubnet (word 1 message)).isSome) :
    Conforms (.subnets l) message ↔
      ¬ (word 2 message ≠ [] ∨ ∃ x ∈ splitFirst '/' (word 1 message), '\x00' ∈ x.1 ∨ NotDigits x.2) := by
  have hne : word 0 message ≠ [] := by rcases h with h | h <;> rw [h] <;> decide
  rw [Conforms, or_iff_right (fun hs => not_switchWord h (switches_iff.mp hs).1), not_or, not_not,
    ← isSubnet_iff hp]
  constructor
  · rintro ⟨command, subnet, hw, -, hs⟩
    obtain ⟨-, -, rfl, -, h2⟩ := words_two.mp hw
    exact ⟨h2, hs⟩
  · rintro ⟨h2, hs⟩
    exact ⟨_, _, words_two.mpr ⟨rfl, hne, rfl, ne_nil_of_parseSubnet hp, h2⟩, h, hs⟩

lemma ne_nil_of_inetPton {s : Text} (h : (inetPton s).isSome) : s ≠ [] := by
  rintro rfl
  cases h

lemma digits_iff {s : Text} (h : s ≠ []) : Digits s ↔ ¬ NotDigits s := by
  simp [Digits, NotDigits, h]

lemma conforms_add (h : word 0 message = ADD) (hip : (inetPton (word 1 message)).isSome)
    (hp : ∃ p ∈ extractUint32 (word 2 message), p ≠ 0) :
    Conforms .ratelimit message ↔
      ¬ (word 3 message ≠ [] ∨ '\x00' ∈ word 1 message ∨ NotDigits (word 2 message)) := by
  have hpps : word 2 message ≠ [] := by
    intro hnil
    rw [hnil] at hp
    obtain ⟨p, hp, -⟩ := hp
    cases hp
  have hne : REMOVE ≠ ADD := by decide
  rw [Conforms, or_iff_right (fun hs => not_switchWord (.inl h) (switches_iff.mp hs).1)]
  simp only [not_or, not_not, ← digits_iff hpps]
  constructor
  · rintro (⟨ip, pps, hw, ha, hd⟩ | ⟨ip, hw, -⟩)
    · obtain ⟨-, -, rfl, -, rfl, -, h3⟩ := words_three.mp hw
      exact ⟨h3, ha.2, hd⟩
    · exact absurd ((words_two.mp hw).1.symm.trans h) hne
  · rintro ⟨h3, hnul, hd⟩
    have hw : words message = [ADD, word 1 message, word 2 message] :=
      words_three.mpr ⟨h, by decide, rfl, ne_nil_of_inetPton hip, rfl, hpps, h3⟩
    exact .inl ⟨_, _, hw, ⟨hip, hnul⟩, hd⟩

lemma conforms_remove (h : word 0 message = REMOVE) (hip : (inetPton (word 1 message)).isSome) :
    Conforms .ratelimit message ↔ ¬ (word 2 message ≠ [] ∨ '\x00' ∈ word 1 message) := by
  have hne : ADD ≠ REMOVE := by decide
  rw [Conforms, or_iff_right (fun hs => not_switchWord (.inr h) (switches_iff.mp hs).1)]
  simp only [not_or, not_not]
  constructor
  · rintro (⟨ip, pps, hw, -⟩ | ⟨ip, hw, ha⟩)
    · exact absurd ((words_three.mp hw).1.symm.trans h) hne
    · obtain ⟨-, -, rfl, -, h2⟩ := words_two.mp hw
      exact ⟨h2, ha.2⟩
  · rintro ⟨h2, hnul⟩
    have hw : words message = [REMOVE, word 1 message] :=
      words_two.mpr ⟨h, by decide, rfl, ne_nil_of_inetPton hip, h2⟩
    exact .inr ⟨_, hw, hip, hnul⟩

lemma sloppy_subnets_iff (l : SubnetList) :
    Sloppy (.subnets l) message ↔ (readSubnetCommand l message).isSome ∧ ¬ Conforms (.subnets l) message := by
  rw [readSubnetCommand_isSome, Sloppy]
  constructor
  · rintro (⟨hs, hrest⟩ | ⟨h0, hp, hrest⟩)
    · exact ⟨.inl hs, fun hc => hrest ((conforms_switch _ hs).mp hc)⟩
    · exact ⟨.inr ⟨h0, hp⟩, fun hc => (conforms_subnet l h0 hp).mp hc hrest⟩
  · rintro ⟨hs | ⟨h0, hp⟩, hno⟩
    · exact .inl ⟨hs, mt (conforms_switch _ hs).mpr hno⟩
    · exact .inr ⟨h0, hp, not_not.mp (mt (conforms_subnet l h0 hp).mpr hno)⟩

lemma sloppy_ratelimit_iff :
    Sloppy .ratelimit message ↔ (readRateCommand message).isSome ∧ ¬ Conforms .ratelimit message := by
  rw [readRateCommand_isSome, Sloppy]
  constructor
  · rintro (⟨hs, hrest⟩ | ⟨h0, hip, hp, hrest⟩ | ⟨h0, hip, hrest⟩)
    · exact ⟨.inl hs, fun hc => hrest ((conforms_switch _ hs).mp hc)⟩
    · exact ⟨.inr (.inl ⟨h0, hip, hp⟩), fun hc => (conforms_add h0 hip hp).mp hc hrest⟩
    · exact ⟨.inr (.inr ⟨h0, hip⟩), fun hc => (conforms_remove h0 hip).mp hc hrest⟩
  · rintro ⟨hs | ⟨h0, hip, hp⟩ | ⟨h0, hip⟩, hno⟩
    · exact .inl ⟨hs, mt (conforms_switch _ hs).mpr hno⟩
    · exact .inr (.inl ⟨h0, hip, hp, not_not.mp (mt (conforms_add h0 hip hp).mpr hno)⟩)
    · exact .inr (.inr ⟨h0, hip, not_not.mp (mt (conforms_remove h0 hip).mpr hno)⟩)

lemma sloppy_iff (k : Kind) : Sloppy k message ↔ (readCommand k message).isSome ∧ ¬ Conforms k message := by
  cases k with
  | subnets l => exact sloppy_subnets_iff l
  | ratelimit => exact sloppy_ratelimit_iff

end Reading

theorem overlooked_text_iff (k : Kind) (message : Text) :
    (∀ (N : ℕ) (faults : Faults N) (c : ConfigType) (h : Host N), c.kind = k →
      (run (Sys.exec faults) (c.updateConfig message) h).1 = true → Conforms k message) ↔ ¬ Sloppy k message := by
  rw [sloppy_iff, not_and_not_right]
  constructor
  · intro hall hread
    obtain ⟨cmd, hcmd⟩ := Option.isSome_iff_exists.mp hread
    exact hall 1 faultless (.ready k) ready (kind_ready k) (accepts_ready hcmd)
  · rintro hread N faults c h rfl ha
    exact hread (read_of_accepted ha)

def mistyped : Text := "add 10.0.0.0/2x4".toList

theorem mistyped_accepted :
    (run (Sys.exec faultless) (Blacklist.updateConfig ⟨3, 4⟩ mistyped) ready).1 = true ∧
    ¬ Conforms (.subnets .blacklist) mistyped := by
  refine ⟨by decide +kernel, ?_⟩
  have hparse : (parseSubnet (word 1 mistyped)).isSome := by decide +kernel
  rw [conforms_subnet .blacklist (.inl (by decide +kernel)) hparse, not_not]
  exact .inr ⟨("10.0.0.0".toList, "2x4".toList), by decide +kernel, .inr ⟨'x', by decide, by decide⟩⟩

end PacketFilter.Config
