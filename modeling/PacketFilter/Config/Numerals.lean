import PacketFilter.Config.Commands

/-! Prefix lengths and rates, as they are written and as they are stored. -/

namespace PacketFilter.Config

open Library Library.Programs Library.Scanning Kernel Prog

variable {N : ℕ}

/-- The subnet that a text stands for, its prefix length taken as an integer with its sign. -/
def Denotes (s : Text) (ip : Addr) (n : ℤ) : Prop :=
  ∃ ipStr prefixStr, splitFirst '/' s = some (ipStr, prefixStr) ∧ inetPton ipStr = some ip ∧
    integer prefixStr = some n

def SubnetAsWritten (s : Text) : Prop :=
  ∀ key : IPSubnet, parseSubnet s = some key ↔
    ∃ n, Denotes s key.ip n ∧ 0 ≤ n ∧ n ≤ 32 ∧ (key.prefixlen.toNat : ℤ) = n

/-- An integer that is no prefix length but turns into one on its way through 64 and then 32 bits. -/
def WrapsIntoPrefix (n : ℤ) : Prop := n.natAbs < 2 ^ 64 ∧ n % 2 ^ 32 ≤ 32 ∧ ¬ (0 ≤ n ∧ n ≤ 32)

lemma Denotes.unique {s : Text} {ip ip' : Addr} {n n' : ℤ} (h : Denotes s ip n) (h' : Denotes s ip' n') :
    ip = ip' ∧ n = n' := by
  obtain ⟨i, p, hs, hi, hp⟩ := h
  obtain ⟨i', p', hs', hi', hp'⟩ := h'
  rw [hs] at hs'
  cases hs'
  rw [hi] at hi'
  rw [hp] at hp'
  exact ⟨Option.some.inj hi', Option.some.inj hp'⟩

def prefixRead (n : ℤ) : Option (BitVec 32) :=
  if n.natAbs < 2 ^ 64 ∧ n % 2 ^ 32 ≤ 32 then some (BitVec.ofInt 32 n) else none

lemma stoul_prefix (s : Text) :
    (stoul s).bind (fun v => if (v.setWidth 32).toNat > 32 then none else some (v.setWidth 32)) =
      (integer s).bind prefixRead := by
  rw [stoul_eq]
  cases integer s with
  | none => rfl
  | some n =>
    have ht : (BitVec.ofInt 32 n).toNat = n % 2 ^ 32 := toNat_ofInt32 n
    simp only [Option.bind_some, prefixRead]
    by_cases ha : n.natAbs < 2 ^ 64
    · simp only [ha, if_true, true_and, Option.bind_some, setWidth_ofInt]
      by_cases hle : n % 2 ^ 32 ≤ 32
      · rw [if_neg (by omega), if_pos hle]
      · rw [if_pos (by omega), if_neg hle]
    · simp only [ha, if_false, false_and, Option.bind_none]

lemma parseSubnet_eq (s : Text) :
    parseSubnet s = (splitFirst '/' s).bind (fun x => (inetPton x.1).bind (fun ip =>
      ((integer x.2).bind prefixRead).map (⟨·, ip⟩))) := by
  simp only [← stoul_prefix]
  unfold parseSubnet
  cases splitFirst '/' s with
  | none => rfl
  | some x =>
    simp only [Option.bind_some]
    cases inetPton x.1 with
    | none => rfl
    | some ip =>
      simp only [Option.bind_some]
      cases stoul x.2 with
      | none => rfl
      | some v =>
        simp only [Option.bind_some]
        split_ifs <;> rfl

lemma parseSubnet_eq_some {s : Text} {key : IPSubnet} :
    parseSubnet s = some key ↔ ∃ n, Denotes s key.ip n ∧ prefixRead n = some key.prefixlen := by
  simp only [parseSubnet_eq, Denotes, Option.bind_eq_some_iff, Option.map_eq_some_iff]
  constructor
  · rintro ⟨⟨i, p⟩, hs, ip, hi, v, ⟨n, hn, hv⟩, rfl⟩
    exact ⟨n, ⟨i, p, hs, hi, hn⟩, hv⟩
  · rintro ⟨n, ⟨i, p, hs, hi, hn⟩, hv⟩
    exact ⟨(i, p), hs, key.ip, hi, key.prefixlen, ⟨n, hn, hv⟩, rfl⟩

lemma prefixRead_eq_some {n : ℤ} {v : BitVec 32} :
    prefixRead n = some v ↔ n.natAbs < 2 ^ 64 ∧ n % 2 ^ 32 ≤ 32 ∧ (v.toNat : ℤ) = n % 2 ^ 32 := by
  have ht : (BitVec.ofInt 32 n).toNat = n % 2 ^ 32 := toNat_ofInt32 n
  unfold prefixRead
  split_ifs with h
  · rw [Option.some.injEq]
    constructor
    · rintro rfl
      exact ⟨h.1, h.2, ht⟩
    · rintro ⟨_, _, hv⟩
      exact BitVec.eq_of_toNat_eq (by omega)
  · constructor
    · intro hv
      cases hv
    · exact fun hv => absurd ⟨hv.1, hv.2.1⟩ h

theorem subnet_as_written_iff (s : Text) :
    SubnetAsWritten s ↔ ¬ ∃ ip n, Denotes s ip n ∧ WrapsIntoPrefix n := by
  constructor
  · rintro h ⟨ip, n, hd, hlt, hle, hout⟩
    have hp : prefixRead n = some (BitVec.ofInt 32 n) := if_pos ⟨hlt, hle⟩
    obtain ⟨m, hd', h0, h32, _⟩ := (h ⟨BitVec.ofInt 32 n, ip⟩).mp (parseSubnet_eq_some.mpr ⟨n, hd, hp⟩)
    obtain ⟨_, rfl⟩ := hd.unique hd'
    exact hout ⟨h0, h32⟩
  · intro h key
    rw [parseSubnet_eq_some]
    apply exists_congr
    intro n
    rw [prefixRead_eq_some]
    constructor
    · rintro ⟨hd, hlt, hle, hk⟩
      have hin : 0 ≤ n ∧ n ≤ 32 := by
        by_contra hout
        exact h ⟨_, n, hd, hlt, hle, hout⟩
      exact ⟨hd, hin.1, hin.2, by omega⟩
    · rintro ⟨hd, h0, h32, hk⟩
      exact ⟨hd, by omega, by omega, by omega⟩

theorem subnet_not_as_written :
    (parseSubnet "10.0.0.0/4294967304".toList = some ⟨8#32, 0x0A000000#32⟩ ∧
      parseSubnet "0.0.0.0/-4294967296".toList = some ⟨0#32, 0#32⟩) ∧
    ¬ ∀ s, SubnetAsWritten s := by
  refine ⟨by decide +kernel, ?_⟩
  intro h
  obtain ⟨n, ⟨_, _, hs, _, hn⟩, _, hle, _⟩ :=
    (h "10.0.0.0/4294967304".toList ⟨8#32, 0x0A000000#32⟩).mp (by decide +kernel)
  cases hs
  have hz : n = 4294967304 := Option.some.inj (hn.symm.trans (by decide +kernel))
  omega

section Rates

variable (faults : Faults N) (fds : RateFds) (h : Host N)

def rateToken (message : Text) : Text := (token (token (token message).2).2).1

/-- What a rate message is to do to the limit of `ip`, given the integer it writes. -/
structure RateAsWritten (message : Text) (ip : Addr) : Prop where
  answer : (run (Sys.exec faults) (RateLimit.updateConfig fds message) h).1 = true ↔
    ∃ n ∈ integer (rateToken message), 1 ≤ n ∧ n ≤ 2 ^ 32 - 1
  stored : ∀ n ∈ integer (rateToken message), 1 ≤ n → n ≤ 2 ^ 32 - 1 → ∃ limit : IpRateLimit,
    (limit.packetsPerSecond.toNat : ℤ) = n ∧ (limit.packetIntervalNs.toNat : ℤ) = 10 ^ 9 / n ∧
    ∀ a, (run (Sys.exec faults) (RateLimit.updateConfig fds message) h).2.settings.ipRateLimits.get? a =
      if a = ip then some limit else h.settings.ipRateLimits.get? a
  unchanged : (¬ ∃ n ∈ integer (rateToken message), 1 ≤ n ∧ n ≤ 2 ^ 32 - 1) →
    (run (Sys.exec faults) (RateLimit.updateConfig fds message) h).2.settings.ipRateLimits =
      h.settings.ipRateLimits

/-- Negative integers that 32 bits turn into a rate. -/
def WrapsIntoRate (n : ℤ) : Prop := -2 ^ 32 < n ∧ n < 0

variable {faults fds h} {message : Text} {ip : Addr}

lemma updateConfig_add_none (hadd : (token message).1 = ADD)
    (hx : ∀ pps ∈ extractUint32 (token (token message).2).2, pps = 0) :
    RateLimit.updateConfig fds message = return false := by
  have h1 : ¬ ADD = ENABLED := by decide
  have h2 : ¬ ADD = DISABLED := by decide
  simp only [RateLimit.updateConfig, hadd, h1, h2, if_false, if_true]
  split_ifs
  · rfl
  · split
    · rfl
    · split
      · rfl
      · rename_i pps hp
        rw [if_pos (hx pps hp)]

lemma updateConfig_add_some (hadd : (token message).1 = ADD)
    (hip : inetPton (token (token message).2).1 = some ip) {pps : BitVec 32}
    (hx : extractUint32 (token (token message).2).2 = some pps) (hp : pps ≠ 0) :
    RateLimit.updateConfig fds message = RateLimit.addRateLimit fds ip pps := by
  have h1 : ¬ ADD = ENABLED := by decide
  have h2 : ¬ ADD = DISABLED := by decide
  have h3 : (token (token message).2).1 ≠ [] := by
    intro he
    rw [he] at hip
    cases hip
  simp only [RateLimit.updateConfig, hadd, h1, h2, h3, hip, hx, hp, if_false, if_true]

lemma run_addRateLimit
    (hok : ∀ config, ((Sys.updateRateLimits fds.mapFdRateLimits ip config).exec faults h).1 = .ok ())
    {pps : BitVec 32} (hp : pps ≠ 0) :
    (run (Sys.exec faults) (RateLimit.addRateLimit fds ip pps) h).1 = true ∧
      ∀ a, (run (Sys.exec faults) (RateLimit.addRateLimit fds ip pps) h).2.settings.ipRateLimits.get? a =
        if a = ip then some (rateLimitConfig pps) else h.settings.ipRateLimits.get? a := by
  have hr := hok (rateLimitConfig pps)
  obtain ⟨_, ⟨_, hs⟩ | ⟨e, he, _⟩⟩ := exec_cases faults
    (.updateRateLimits fds.mapFdRateLimits ip (rateLimitConfig pps)) (by simp) h
  · simp only [RateLimit.addRateLimit, if_neg hp, sys, perform_bind, run_call, pure_eq, run_ret, hr, updated,
      true_and]
    exact fun a => congrFun (congrArg View.limits (view_addLimit _ _ hs)) a
  · cases hr.symm.trans he

def Rated (n : ℤ) : Prop := n ≠ 0 ∧ n.natAbs < 2 ^ 32

lemma ofInt_ne_zero {n : ℤ} (h : Rated n) : BitVec.ofInt 32 n ≠ 0 := by
  intro h0
  have ht := toNat_ofInt32 n
  rw [h0] at ht
  have hz : ((0 : BitVec 32).toNat : ℤ) = 0 := rfl
  obtain ⟨h1, h2⟩ := h
  omega

lemma rated_add {n : ℤ} (hadd : (token message).1 = ADD) (hip : inetPton (token (token message).2).1 = some ip)
    (hn : integer (rateToken message) = some n) (hr : Rated n) :
    RateLimit.updateConfig fds message = RateLimit.addRateLimit fds ip (BitVec.ofInt 32 n) := by
  apply updateConfig_add_some hadd hip _ (ofInt_ne_zero hr)
  rw [extractUint32_rest, ← rateToken, hn, Option.bind_some, if_pos hr.2]

lemma not_rated_add (hadd : (token message).1 = ADD) (hn : ∀ n ∈ integer (rateToken message), ¬ Rated n) :
    RateLimit.updateConfig fds message = return false := by
  apply updateConfig_add_none hadd
  intro pps hp
  rw [extractUint32_rest, ← rateToken] at hp
  obtain ⟨n, hi, hp⟩ := Option.bind_eq_some_iff.mp hp
  split_ifs at hp with hc
  cases hp
  have hr := hn n hi
  have ht := toNat_ofInt32 n
  apply BitVec.eq_of_toNat_eq
  have hz : ((0 : BitVec 32).toNat : ℤ) = 0 := rfl
  simp only [Rated, hc, and_true, not_not] at hr
  omega

theorem rate_as_written_iff (faults : Faults N) (fds : RateFds) (h : Host N) (message : Text) (ip : Addr)
    (hadd : (token message).1 = ADD) (hip : inetPton (token (token message).2).1 = some ip)
    (hok : ∀ config, ((Sys.updateRateLimits fds.mapFdRateLimits ip config).exec faults h).1 = .ok ()) :
    RateAsWritten faults fds h message ip ↔ ¬ ∃ n ∈ integer (rateToken message), WrapsIntoRate n := by
  constructor
  · rintro hw ⟨n, hn, hlo, hhi⟩
    have hr : Rated n := ⟨by omega, by omega⟩
    have ha := (run_addRateLimit hok (ofInt_ne_zero hr)).1
    rw [← rated_add hadd hip hn hr, hw.answer] at ha
    obtain ⟨m, hm, h1, _⟩ := ha
    cases Option.mem_unique hm hn
    omega
  · intro hw
    by_cases hv : ∃ n ∈ integer (rateToken message), 1 ≤ n ∧ n ≤ 2 ^ 32 - 1
    · obtain ⟨n, hn, h1, h2⟩ := hv
      have hr : Rated n := ⟨by omega, by omega⟩
      obtain ⟨ha, hs⟩ := run_addRateLimit hok (ofInt_ne_zero hr)
      rw [← rated_add hadd hip hn hr] at ha hs
      constructor
      case answer => exact ⟨fun _ => ⟨n, hn, h1, h2⟩, fun _ => ha⟩
      case stored =>
        intro m hm _ _
        cases Option.mem_unique hm hn
        have ht : ((BitVec.ofInt 32 n).toNat : ℤ) = n := (toNat_ofInt32 n).trans (by omega)
        refine ⟨_, ht, ?_, hs⟩
        rw [toNat_interval, Int.natCast_ediv, ht]
        norm_num
      case unchanged => exact fun hne => absurd ⟨n, hn, h1, h2⟩ hne
    · have hf : RateLimit.updateConfig fds message = return false := by
        apply not_rated_add hadd
        rintro n hn ⟨hr1, hr2⟩
        by_cases h0 : 0 ≤ n
        · exact hv ⟨n, hn, by omega, by omega⟩
        · exact hw ⟨n, hn, by omega, by omega⟩
      constructor
      case answer =>
        rw [hf]
        refine ⟨?_, fun he => absurd he hv⟩
        intro ht
        cases ht
      case stored => exact fun n hn h1 h2 => absurd ⟨n, hn, h1, h2⟩ hv
      case unchanged =>
        rw [hf]
        exact fun _ => rfl

def idle : Host 2 := ⟨.zeroed, 0, []⟩

theorem negative_rate_accepted :
    ¬ ∀ (faults : Faults 2) (fds : RateFds) (h : Host 2) (message : Text) (ip : Addr),
      (token message).1 = ADD → inetPton (token (token message).2).1 = some ip →
      (∀ config, ((Sys.updateRateLimits fds.mapFdRateLimits ip config).exec faults h).1 = .ok ()) →
      RateAsWritten faults fds h message ip := by
  intro hall
  have hw := hall (fun _ _ _ => false) ⟨3, 4⟩ idle "add 10.0.0.1 -1".toList 0x0A000001#32
    (by decide +kernel) (by decide +kernel) (fun _ => rfl)
  obtain ⟨n, hn, h1, _⟩ := hw.answer.mp (by decide +kernel)
  have hz : n = -1 := Option.some.inj (hn.symm.trans (by decide +kernel))
  omega

theorem rate_as_written_five :
    (run (Sys.exec (fun _ _ _ => false)) (RateLimit.updateConfig ⟨3, 4⟩ "add 10.0.0.1 5".toList) idle).1 = true :=
  ((rate_as_written_iff (fun _ _ _ => false) ⟨3, 4⟩ idle "add 10.0.0.1 5".toList 0x0A000001#32 (by decide +kernel)
    (by decide +kernel) (fun _ => rfl)).mpr (by
      rintro ⟨n, hn, hw⟩
      have hz : n = 5 := Option.some.inj (hn.symm.trans (by decide +kernel))
      subst hz
      exact absurd hw.2 (by norm_num))).answer.mpr ⟨5, by decide +kernel, by norm_num, by norm_num⟩

end Rates

end PacketFilter.Config
