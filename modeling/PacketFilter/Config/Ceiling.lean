import PacketFilter.Config.Types
import PacketFilter.Kernel.Sources

/-! The packets of one address that pass within a second, against the configured rate. -/

namespace PacketFilter.Config

open Library Library.Spacing Kernel

variable {N : ℕ}

/-- A run with rising clock in which `limit` is the limit of `a` throughout, and each packet of `a` that
passes finds its timestamp recorded or room to record it. -/
structure LimitedRun (a : Addr) (limit : IpRateLimit) (m : Maps N) (es : List (Event N)) : Prop where
  inForce : ∀ x ∈ moments m es, x.1.settings.limitInForce a = some limit
  ordered : (times es).Pairwise (· ≤ ·)
  recorded : ∀ x ∈ moments m es, PassesLimit x.1 a x.2 → ¬ x.1.ipTimestamps.Refuses a

def passesWithin (a : Addr) (m : Maps N) (es : List (Event N)) (t : ℕ) : ℕ :=
  (passTimes a m es).countP (fun x => t ≤ x ∧ x < t + 1000000000)

lemma passesWithin_le {a : Addr} {p : BitVec 32} (hd : p.toNat ∣ 1000000000) {m : Maps N} {es : List (Event N)}
    (h : LimitedRun a (rateLimitConfig p) m es) (t : ℕ) : passesWithin a m es t ≤ p.toNat := by
  have hs := pairwise_apart (passTimes_chain h.inForce h.recorded h.ordered)
  rw [toNat_interval] at hs
  rw [passesWithin, List.countP_eq_length_filter]
  apply length_le_of_apart (hs.filter _) (t := t) (w := 1000000000)
  · intro x hx
    simpa using (List.mem_filter.mp hx).2
  · exact (Nat.mul_div_cancel' hd).ge

section Paced

variable {a : Addr} {limit : IpRateLimit}

def arrivalAt (a : Addr) (t : ℕ) : Event N := .packet (.source a) ⟨BitVec.ofNat 64 t, false⟩

def paced (a : Addr) (ts : List ℕ) : List (Event N) := ts.flatMap (fun t => [arrivalAt a t, .consume 1])

structure Ready (a : Addr) (limit : IpRateLimit) (m : Maps N) (t : ℕ) : Prop where
  whitelist : ¬ m.settings.WhitelistDrops a
  blacklist : ¬ m.settings.BlacklistDrops a
  inForce : m.settings.limitInForce a = some limit
  room : ¬ m.ipTimestamps.Refuses a
  spaced : ∀ s ∈ m.ipTimestamps.get? a, s.lastTimestamp.toNat + limit.packetIntervalNs.toNat ≤ t
  drained : m.packetRingbuf.Drained

lemma Ready.hasSlot {m : Maps N} {t : ℕ} (h : Ready a limit m t) (now : BitVec 64) : m.HasSlot ⟨now, false⟩ :=
  ⟨rfl, h.drained.hasRoom⟩

lemma Ready.not_drops {m : Maps N} {t : ℕ} (h : Ready a limit m t) (ht : t < 2 ^ 64) :
    ¬ m.Drops (BitVec.ofNat 64 t) a := by
  have hn : (BitVec.ofNat 64 t).toNat = t := by simpa using Nat.mod_eq_of_lt ht
  rintro (hw | hb | ⟨l, hl, s, hs, hlt⟩)
  · exact h.whitelist hw
  · exact h.blacklist hb
  · obtain rfl : limit = l := by simpa [h.inForce] using hl
    have hsp := h.spaced s hs
    rw [sub_lt_iff_of_le (by rw [BitVec.le_def]; omega)] at hlt
    omega

lemma Ready.passesLimit {m : Maps N} {t : ℕ} (h : Ready a limit m t) (ht : t < 2 ^ 64) :
    PassesLimit m a (arrivalAt a t) := by
  have hd := h.not_drops ht
  have hv := verdict?_packet m (.source a) ⟨BitVec.ofNat 64 t, false⟩
  rw [if_pos ⟨Frame.source_isIpv4 a, h.hasSlot _⟩, Maps.verdict, Frame.source_saddr, if_neg hd] at hv
  exact ⟨⟨Frame.source_isIpv4 a, h.hasSlot _, Frame.source_saddr a⟩, by simp [h.inForce], hv⟩

lemma Ready.step {m : Maps N} {t : ℕ} (h : Ready a limit m t) (ht : t < 2 ^ 64) :
    Ready a limit (step (step m (arrivalAt a t)) (.consume 1)) (t + limit.packetIntervalNs.toNat) := by
  have hs : (Kernel.step m (arrivalAt a t)).settings = m.settings :=
    settings_packet m (.source a) ⟨BitVec.ofNat 64 t, false⟩
  have hg := get?_timestamps_step m (arrivalAt a t) a
  rw [if_pos ⟨h.passesLimit ht, h.room⟩] at hg
  simp only [arrivalAt, Event.time?, Option.map_some] at hg
  constructor
  case whitelist =>
    rw [settings_consume, hs]
    exact h.whitelist
  case blacklist =>
    rw [settings_consume, hs]
    exact h.blacklist
  case inForce =>
    rw [settings_consume, hs]
    exact h.inForce
  case room =>
    rw [ipTimestamps_consume]
    rintro ⟨hn, _⟩
    rw [← CellMap.get?_eq_none, arrivalAt, hg] at hn
    cases hn
  case spaced =>
    rw [ipTimestamps_consume, arrivalAt, hg]
    rintro s ⟨rfl⟩
    simp only [BitVec.toNat_ofNat, Nat.mod_eq_of_lt ht, le_refl]
  case drained => exact drained_step h.drained (.source a) ⟨BitVec.ofNat 64 t, false⟩

lemma paced_cons (t : ℕ) (ts : List ℕ) :
    (paced a (t :: ts) : List (Event N)) = arrivalAt a t :: .consume 1 :: paced a ts := rfl

lemma Ready.passTimes_paced {m : Maps N} {t n : ℕ} (h : Ready a limit m t)
    (ht : t + n * limit.packetIntervalNs.toNat < 2 ^ 64) :
    passTimes a m (paced a (ladder limit.packetIntervalNs.toNat t n)) =
      ladder limit.packetIntervalNs.toNat t n := by
  induction n generalizing m t with
  | zero => rfl
  | succ n ih =>
    rw [Nat.succ_mul] at ht
    have hlt : t < 2 ^ 64 := by omega
    have hn : ¬ PassesLimit (Kernel.step m (arrivalAt a t)) a (.consume 1) := fun hp => hp.1
    have hh := ih (h.step hlt) (by omega)
    rw [ladder, paced_cons, passTimes, if_pos (h.passesLimit hlt), passTimes, if_neg hn, hh]
    simpa [arrivalAt, Event.time?] using hlt

lemma times_paced {ts : List ℕ} (h : ∀ t ∈ ts, t < 2 ^ 64) : times (paced a ts : List (Event N)) = ts := by
  induction ts with
  | nil => rfl
  | cons t ts ih =>
    have hh := ih (fun x hx => h x (List.mem_cons_of_mem t hx))
    simpa [paced_cons, arrivalAt, Event.time?, hh] using h t List.mem_cons_self

lemma Ready.moments_paced {m : Maps N} {t n : ℕ} (h : Ready a limit m t)
    (ht : t + n * limit.packetIntervalNs.toNat < 2 ^ 64) :
    ∀ x ∈ moments m (paced a (ladder limit.packetIntervalNs.toNat t n)),
      x.1.settings.limitInForce a = some limit ∧ (PassesLimit x.1 a x.2 → ¬ x.1.ipTimestamps.Refuses a) := by
  induction n generalizing m t with
  | zero => simp [ladder, paced, moments]
  | succ n ih =>
    rw [Nat.succ_mul] at ht
    have hs := h.step (show t < 2 ^ 64 by omega)
    have hh := ih hs (by omega)
    intro x hx
    rw [ladder, paced_cons, moments, moments] at hx
    simp only [List.mem_cons] at hx
    rcases hx with rfl | rfl | hx
    · exact ⟨h.inForce, fun _ => h.room⟩
    · exact ⟨hs.inForce, fun hp => hp.1.elim⟩
    · exact hh x hx

lemma Ready.limitedRun {m : Maps N} {t n : ℕ} (h : Ready a limit m t)
    (ht : t + n * limit.packetIntervalNs.toNat < 2 ^ 64) :
    LimitedRun a limit m (paced a (ladder limit.packetIntervalNs.toNat t n)) := by
  have hx := h.moments_paced ht
  have hb : ∀ x ∈ ladder limit.packetIntervalNs.toNat t n, x < 2 ^ 64 := by
    intro x hx
    have hm := mem_ladder hx
    omega
  refine ⟨fun x h => (hx x h).1, ?_, fun x h => (hx x h).2⟩
  rw [times_paced hb]
  exact ladder_sorted _ t n

end Paced

lemma ready_limiting (a : Addr) (limit : IpRateLimit) : Ready a limit (limiting a limit : Maps (N + 1)) 0 where
  whitelist h := by simp [limiting, Settings.WhitelistDrops, Settings.Enabled, CONFIG_KEY_WHITELIST,
    arrayLookup] at h
  blacklist h := by simp [limiting, Settings.BlacklistDrops, Settings.Enabled, CONFIG_KEY_BLACKLIST,
    arrayLookup] at h
  inForce := by
    obtain ⟨t, ht, hg⟩ : ∃ m : BoundedMap Addr IpRateLimit (N + 1), _ := BoundedMap.exists_update_empty a limit
    simpa [limiting, Settings.limitInForce, Settings.Enabled, CONFIG_KEY_RATELIMIT, arrayLookup, ht] using hg
  room h := by
    have hf := h.2
    simp [limiting, Maps.zeroed, CellMap.Full, CellMap.empty, BoundedMap.Full, BoundedMap.size,
      BoundedMap.empty] at hf
  spaced s hs := by cases hs
  drained := ⟨rfl, rfl⟩

lemma mul_interval_lt {p : ℕ} (hd : ¬ p ∣ 1000000000) : p * (1000000000 / p) < 1000000000 := by
  have hle : p * (1000000000 / p) ≤ 1000000000 := Nat.mul_div_le _ _
  have hne : p * (1000000000 / p) ≠ 1000000000 := fun h => hd ⟨_, h.symm⟩
  omega

lemma passesWithin_limiting {p : BitVec 32} (hd : ¬ p.toNat ∣ 1000000000) (a : Addr) :
    ∃ es, LimitedRun a (rateLimitConfig p) (limiting a (rateLimitConfig p) : Maps (N + 1)) es ∧
      passesWithin a (limiting a (rateLimitConfig p) : Maps (N + 1)) es 0 = p.toNat + 1 := by
  have hr := ready_limiting (N := N) a (rateLimitConfig p)
  have hi := toNat_interval p
  have hlt := mul_interval_lt hd
  have ht : 0 + (p.toNat + 1) * (rateLimitConfig p).packetIntervalNs.toNat < 2 ^ 64 := by
    have hle : 1000000000 / p.toNat ≤ 1000000000 := Nat.div_le_self _ _
    rw [hi, Nat.succ_mul]
    omega
  refine ⟨_, hr.limitedRun ht, ?_⟩
  rw [passesWithin, hr.passTimes_paced ht, hi]
  refine (List.countP_eq_length.mpr ?_).trans (length_ladder _ _ _)
  intro x hx
  have hm := mem_ladder hx
  rw [Nat.succ_mul] at hm
  simp only [decide_eq_true_eq]
  omega

theorem rate_is_ceiling_iff (p : BitVec 32) (a : Addr) :
    (∀ (m : Maps (N + 1)) (es : List (Event (N + 1))), LimitedRun a (rateLimitConfig p) m es →
      ∀ t, passesWithin a m es t ≤ p.toNat) ↔ p.toNat ∣ 1000000000 := by
  constructor
  · intro h
    by_contra hd
    obtain ⟨es, hr, hc⟩ := passesWithin_limiting (N := N) hd a
    have hle := h _ es hr 0
    omega
  · exact fun hd m es hr t => passesWithin_le hd hr t

theorem four_pass_at_rate_three :
    ¬ ∀ (m : Maps 1) (es : List (Event 1)),
      (∀ x ∈ moments m es, x.1.settings.limitInForce 0x0A000001#32 = some (rateLimitConfig 3#32)) →
      (times es).Pairwise (· ≤ ·) → ∀ t, passesWithin 0x0A000001#32 m es t ≤ 3 := by
  intro h
  have hle := h (limiting 0x0A000001#32 (rateLimitConfig 3#32))
    (paced 0x0A000001#32 [0, 333333333, 666666666, 999999999]) (by decide +kernel) (by decide +kernel) 0
  revert hle
  decide +kernel

lemma interval_le_interval {p q : BitVec 32} (h : q.toNat ≤ p.toNat) (hq : q ≠ 0) :
    (rateLimitConfig p).packetIntervalNs.toNat ≤ (rateLimitConfig q).packetIntervalNs.toNat := by
  have hpos : 0 < q.toNat := by
    by_contra hn
    exact hq (BitVec.eq_of_toNat_eq (by simpa using hn))
  rw [toNat_interval, toNat_interval]
  exact Nat.div_le_div_left h hpos

lemma passTimes_antitone {a : Addr} {p q : BitVec 32} {m m' : Maps N} {es es' : List (Event N)}
    (h : Admits a (rateLimitConfig p) m es) (h' : Admits a (rateLimitConfig q) m' es') (hle : q.toNat ≤ p.toNat)
    (hq : q ≠ 0) (ht : packetTimes a es' = packetTimes a es) :
    (passTimes a m' es').length ≤ (passTimes a m es).length := by
  apply h.length_le_passTimes
  · exact ht ▸ h'.passTimes_sublist
  · refine h'.passTimes_apart.imp ?_
    intro x y hxy
    exact (Nat.add_le_add_left (interval_le_interval hle hq) x).trans hxy

theorem limiter_passes_most {a : Addr} {limit : IpRateLimit} {m : Maps N} {es : List (Event N)}
    (h : Admits a limit m es) :
    ((passTimes a m es).Sublist (packetTimes a es) ∧
      (passTimes a m es).Pairwise (Apart limit.packetIntervalNs.toNat) ∧
      ∀ ys : List ℕ, ys.Sublist (packetTimes a es) → ys.Pairwise (Apart limit.packetIntervalNs.toNat) →
        ys.length ≤ (passTimes a m es).length) ∧
    (∀ es', Quiet m es' → packetTimes a es' = packetTimes a es → verdictsOf a m es' = verdictsOf a m es) ∧
    ∀ (p q : BitVec 32) (m' : Maps N) (es' : List (Event N)), limit = rateLimitConfig p →
      q.toNat ≤ p.toNat → q ≠ 0 →
      Admits a (rateLimitConfig q) m' es' → packetTimes a es' = packetTimes a es →
      (passTimes a m' es').length ≤ (passTimes a m es).length := by
  refine ⟨⟨h.passTimes_sublist, h.passTimes_apart, ?_⟩, ?_, ?_⟩
  · exact fun ys hsub hy => h.length_le_passTimes hsub hy
  · exact fun es' hq ht => verdictsOf_congr h.allowed h.quiet hq ht
  · rintro p q m' es' rfl hle hq h' ht
    exact passTimes_antitone h h' hle hq ht

def crowd (a b : Addr) : List (Event N) :=
  [arrivalAt a 0, arrivalAt b 1, arrivalAt a 300000000, .consume 2, arrivalAt a 600000000]

lemma admits_crowd : Admits 0x0A000001#32 (rateLimitConfig 2#32)
    (limiting 0x0A000001#32 (rateLimitConfig 2#32) : Maps 8) (crowd 0x0A000001#32 0x0A000002#32) where
  allowed := ⟨by decide +kernel, by decide +kernel, by decide +kernel⟩
  fresh := rfl
  quiet := by decide +kernel
  ordered := by decide +kernel

theorem limiter_passes_most_of_crowd :
    passTimes 0x0A000001#32 (limiting 0x0A000001#32 (rateLimitConfig 2#32) : Maps 8)
      (crowd 0x0A000001#32 0x0A000002#32) = [0, 600000000] ∧
    ∀ ys : List ℕ, ys.Sublist [0, 300000000, 600000000] → ys.Pairwise (Apart 500000000) → ys.length ≤ 2 := by
  refine ⟨by decide +kernel, ?_⟩
  intro ys hsub hy
  exact (limiter_passes_most admits_crowd).1.2.2 ys hsub hy

end PacketFilter.Config
