import PacketFilter.Kernel.Limiter

/-! One source among others: its packets under a fixed limit, and how many of them get through. -/

namespace PacketFilter.Kernel

open Library Library.Spacing

variable {N : ℕ}

def Served (m : Maps N) : Event N → Prop
  | .packet _ inp => m.HasSlot inp
  | .configure _ => False
  | .consume _ => True

instance (m : Maps N) : (e : Event N) → Decidable (Served m e)
  | .packet _ _ => inferInstanceAs (Decidable (Maps.HasSlot _ _))
  | .configure _ => inferInstanceAs (Decidable False)
  | .consume _ => inferInstanceAs (Decidable True)

/-- A run under fixed settings in which every frame finds a slot, and no timestamp is refused for want of room. -/
def Quiet (m : Maps N) (es : List (Event N)) : Prop :=
  ∀ x ∈ moments m es, Served x.1 x.2 ∧ ¬ x.1.ipTimestamps.Full

instance (m : Maps N) (es : List (Event N)) : Decidable (Quiet m es) :=
  inferInstanceAs (Decidable (∀ x ∈ _, _))

lemma quiet_cons {m : Maps N} {e : Event N} {es : List (Event N)} :
    Quiet m (e :: es) ↔ (Served m e ∧ ¬ m.ipTimestamps.Full) ∧ Quiet (step m e) es := by
  simp [Quiet, moments]

def Event.reading? (a : Addr) : Event N → Option (BitVec 64)
  | .packet f inp => if f.IsIpv4 ∧ f.saddr = a then some inp.now else none
  | _ => none

def readings (a : Addr) (es : List (Event N)) : List (BitVec 64) := es.filterMap (Event.reading? a)

def verdictsOf (a : Addr) (m : Maps N) (es : List (Event N)) : List XdpAction :=
  (moments m es).filterMap (fun x => (x.2.reading? a).bind (fun _ => verdict? x.1 x.2))

structure Allowed (a : Addr) (limit : IpRateLimit) (s : Settings N) : Prop where
  whitelist : ¬ s.WhitelistDrops a
  blacklist : ¬ s.BlacklistDrops a
  inForce : s.limitInForce a = some limit

def TooSoon (limit : IpRateLimit) (last : Option PacketTimestamp) (now : BitVec 64) : Prop :=
  ∃ t ∈ last, now - t.lastTimestamp < limit.packetIntervalNs

instance (limit : IpRateLimit) (last : Option PacketTimestamp) (now : BitVec 64) :
    Decidable (TooSoon limit last now) := inferInstanceAs (Decidable (∃ t ∈ _, _))

def judge (limit : IpRateLimit) : Option PacketTimestamp → List (BitVec 64) → List XdpAction
  | _, [] => []
  | last, now :: rest =>
    if TooSoon limit last now then .drop :: judge limit last rest else .pass :: judge limit (some ⟨now⟩) rest

lemma settings_served {m : Maps N} {e : Event N} (h : Served m e) : (step m e).settings = m.settings := by
  cases e with
  | packet f inp => exact settings_packet m f inp
  | configure s => exact h.elim
  | consume n => rfl

section Step

variable {a : Addr} {limit : IpRateLimit} {m : Maps N} {e : Event N}

lemma drops_iff_tooSoon (h : Allowed a limit m.settings) (now : BitVec 64) :
    m.Drops now a ↔ TooSoon limit (m.ipTimestamps.get? a) now := by
  simp only [Maps.Drops, h.whitelist, h.blacklist, false_or, Maps.RatelimitDrops, h.inForce, TooSoon]
  simp

lemma not_checked_of_reading? (h : e.reading? a = none) : ¬ Checked m a e := by
  cases e with
  | packet f inp =>
    rintro ⟨hf, _, ha⟩
    simp [Event.reading?, hf, ha] at h
  | configure s => exact id
  | consume n => exact id

lemma reading?_eq_some {now : BitVec 64} (h : e.reading? a = some now) :
    ∃ f inp, e = .packet f inp ∧ f.IsIpv4 ∧ f.saddr = a ∧ inp.now = now := by
  cases e with
  | packet f inp =>
    simp only [Event.reading?] at h
    split_ifs at h with hc
    exact ⟨f, inp, rfl, hc.1, hc.2, Option.some.inj h⟩
  | configure s => cases h
  | consume n => cases h

lemma verdict?_reading {now : BitVec 64} (h : e.reading? a = some now) (hs : Served m e)
    (hl : Allowed a limit m.settings) :
    verdict? m e = some (if TooSoon limit (m.ipTimestamps.get? a) now then .drop else .pass) := by
  obtain ⟨f, inp, rfl, hf, rfl, rfl⟩ := reading?_eq_some h
  rw [verdict?_packet, if_pos ⟨hf, hs⟩, Maps.verdict]
  simp only [drops_iff_tooSoon hl]

lemma passesLimit_iff {now : BitVec 64} (h : e.reading? a = some now) (hs : Served m e)
    (hl : Allowed a limit m.settings) : PassesLimit m a e ↔ ¬ TooSoon limit (m.ipTimestamps.get? a) now := by
  have hv := verdict?_reading h hs hl
  obtain ⟨f, inp, rfl, hf, rfl, rfl⟩ := reading?_eq_some h
  constructor
  · rintro ⟨_, _, hp⟩ ht
    rw [hv, if_pos ht] at hp
    cases hp
  · intro ht
    refine ⟨⟨hf, hs, rfl⟩, by simp [hl.inForce], ?_⟩
    rw [hv, if_neg ht]

lemma timestamp_other (h : e.reading? a = none) : (step m e).ipTimestamps.get? a = m.ipTimestamps.get? a := by
  rw [get?_timestamps_step, if_neg (fun hp => not_checked_of_reading? h hp.1.1)]

lemma timestamp_reading {now : BitVec 64} (h : e.reading? a = some now) (hs : Served m e)
    (hroom : ¬ m.ipTimestamps.Full) (hl : Allowed a limit m.settings) :
    (step m e).ipTimestamps.get? a =
      if TooSoon limit (m.ipTimestamps.get? a) now then m.ipTimestamps.get? a else some ⟨now⟩ := by
  have hp := passesLimit_iff h hs hl
  obtain ⟨f, inp, rfl, hf, rfl, rfl⟩ := reading?_eq_some h
  have hr : ¬ m.ipTimestamps.Refuses f.saddr := fun hr => hroom hr.2
  rw [get?_timestamps_step]
  by_cases ht : TooSoon limit (m.ipTimestamps.get? f.saddr) inp.now
  · rw [if_neg (fun hq => hp.mp hq.1 ht), if_pos ht]
  · rw [if_pos ⟨hp.mpr ht, hr⟩, if_neg ht]
    rfl

end Step

lemma verdictsOf_cons (a : Addr) (m : Maps N) (e : Event N) (es : List (Event N)) :
    verdictsOf a m (e :: es) =
      ((e.reading? a).bind (fun _ => verdict? m e)).toList ++ verdictsOf a (step m e) es := by
  cases h : (e.reading? a).bind (fun _ => verdict? m e) <;> simp [verdictsOf, moments, h]

lemma readings_cons (a : Addr) (e : Event N) (es : List (Event N)) :
    readings a (e :: es) = (e.reading? a).toList ++ readings a es := by
  cases h : e.reading? a <;> simp [readings, h]

lemma verdictsOf_eq_judge {a : Addr} {limit : IpRateLimit} {m : Maps N} {es : List (Event N)} (hq : Quiet m es)
    (hl : Allowed a limit m.settings) :
    verdictsOf a m es = judge limit (m.ipTimestamps.get? a) (readings a es) := by
  induction es generalizing m with
  | nil => rfl
  | cons e es ih =>
    obtain ⟨⟨hs, hroom⟩, hq⟩ := quiet_cons.mp hq
    have hh := ih hq ((settings_served hs).symm ▸ hl)
    rw [verdictsOf_cons, readings_cons, hh]
    cases hr : e.reading? a with
    | none =>
      rw [timestamp_other hr]
      rfl
    | some now =>
      rw [timestamp_reading hr hs hroom hl, Option.bind_some, verdict?_reading hr hs hl]
      by_cases ht : TooSoon limit (m.ipTimestamps.get? a) now <;> simp [judge, ht]

def packetTimes (a : Addr) (es : List (Event N)) : List ℕ := (readings a es).map BitVec.toNat

lemma packetTimes_cons (a : Addr) (e : Event N) (es : List (Event N)) :
    packetTimes a (e :: es) = ((e.reading? a).map BitVec.toNat).toList ++ packetTimes a es := by
  cases h : e.reading? a <;> simp [packetTimes, readings_cons, h]

lemma packetTimes_sublist (a : Addr) (es : List (Event N)) : (packetTimes a es).Sublist (times es) := by
  induction es with
  | nil => exact List.Sublist.refl []
  | cons e es ih =>
    rw [packetTimes_cons, times_cons]
    apply List.Sublist.append _ ih
    cases h : e.reading? a with
    | none => exact List.nil_sublist _
    | some now =>
      obtain ⟨f, inp, rfl, _, _, rfl⟩ := reading?_eq_some h
      exact List.Sublist.refl _

lemma tooSoon_iff {limit : IpRateLimit} {t now : BitVec 64} (h : t.toNat ≤ now.toNat) :
    TooSoon limit (some ⟨t⟩) now ↔ now.toNat < t.toNat + limit.packetIntervalNs.toNat := by
  simp [TooSoon, sub_lt_iff_of_le (BitVec.le_def.mpr h)]

lemma passTimes_eq_greedy {a : Addr} {limit : IpRateLimit} {m : Maps N} {es : List (Event N)} (hq : Quiet m es)
    (hl : Allowed a limit m.settings)
    (hs : (((m.ipTimestamps.get? a).map (·.lastTimestamp.toNat)).toList ++ packetTimes a es).Pairwise (· ≤ ·)) :
    passTimes a m es = greedy limit.packetIntervalNs.toNat ((m.ipTimestamps.get? a).map (·.lastTimestamp.toNat))
      (packetTimes a es) := by
  induction es generalizing m with
  | nil => cases m.ipTimestamps.get? a <;> rfl
  | cons e es ih =>
    obtain ⟨⟨hserved, hroom⟩, hq⟩ := quiet_cons.mp hq
    have hh := ih hq ((settings_served hserved).symm ▸ hl)
    rw [packetTimes_cons] at hs ⊢
    rw [passTimes]
    cases hr : e.reading? a with
    | none =>
      rw [timestamp_other hr] at hh
      rw [hr] at hs
      rw [if_neg (fun hp => not_checked_of_reading? hr hp.1), hh hs]
      rfl
    | some now =>
      have hp := passesLimit_iff hr hserved hl
      have ht := timestamp_reading hr hserved hroom hl
      have htime : e.time? = some now := by
        obtain ⟨f, inp, rfl, _, _, rfl⟩ := reading?_eq_some hr
        rfl
      rw [hr] at hs
      simp only [Option.map_some, Option.toList_some, List.singleton_append, htime] at hs ⊢
      cases hg : m.ipTimestamps.get? a with
      | none =>
        have hn : ¬ TooSoon limit none now := by simp [TooSoon]
        rw [hg] at hs hp ht
        rw [if_neg hn] at ht
        rw [if_pos (hp.mpr hn), hh (by simpa [ht] using hs), ht]
        rfl
      | some last =>
        rw [hg] at hs hp ht
        simp only [Option.map_some, Option.toList_some, List.singleton_append] at hs ⊢
        obtain ⟨hle, hs'⟩ := List.pairwise_cons.mp hs
        have hiff : TooSoon limit (some last) now ↔ _ := tooSoon_iff (hle now.toNat List.mem_cons_self)
        rw [greedy]
        by_cases hsoon : TooSoon limit (some last) now
        · rw [if_pos hsoon] at ht
          rw [if_neg (fun h => hp.mp h hsoon), if_pos (hiff.mp hsoon), List.nil_append, hh, ht]
          · rfl
          · rw [ht]
            exact hs.sublist ((List.sublist_cons_self _ _).cons_cons _)
        · rw [if_neg hsoon] at ht
          rw [if_pos (hp.mpr hsoon), if_neg (fun h => hsoon (hiff.mpr h)), hh, ht]
          · rfl
          · rw [ht]
            exact hs'

/-- A quiet run with rising clock that begins without a timestamp of `a`, which only its limit can stop. -/
structure Admits (a : Addr) (limit : IpRateLimit) (m : Maps N) (es : List (Event N)) : Prop where
  allowed : Allowed a limit m.settings
  fresh : m.ipTimestamps.get? a = none
  quiet : Quiet m es
  ordered : (times es).Pairwise (· ≤ ·)

namespace Admits

variable {a : Addr} {limit : IpRateLimit} {m : Maps N} {es : List (Event N)}

lemma packetTimes_sorted (h : Admits a limit m es) : (packetTimes a es).Pairwise (· ≤ ·) :=
  h.ordered.sublist (packetTimes_sublist a es)

lemma passTimes_eq (h : Admits a limit m es) :
    passTimes a m es = greedy limit.packetIntervalNs.toNat none (packetTimes a es) := by
  have hg := passTimes_eq_greedy h.quiet h.allowed (by simpa [h.fresh] using h.packetTimes_sorted)
  rw [h.fresh] at hg
  exact hg

lemma passTimes_sublist (h : Admits a limit m es) : (passTimes a m es).Sublist (packetTimes a es) := by
  rw [h.passTimes_eq]
  exact greedy_sublist _ _ _

lemma passTimes_apart (h : Admits a limit m es) :
    (passTimes a m es).Pairwise (Apart limit.packetIntervalNs.toNat) := by
  rw [h.passTimes_eq]
  exact greedy_pairwise _ _

lemma length_le_passTimes (h : Admits a limit m es) {ys : List ℕ} (hsub : ys.Sublist (packetTimes a es))
    (hy : ys.Pairwise (Apart limit.packetIntervalNs.toNat)) : ys.length ≤ (passTimes a m es).length := by
  rw [h.passTimes_eq]
  exact length_le_greedy h.packetTimes_sorted hsub hy

end Admits

lemma verdictsOf_congr {a : Addr} {limit : IpRateLimit} {m : Maps N} {es es' : List (Event N)}
    (hl : Allowed a limit m.settings) (hq : Quiet m es) (hq' : Quiet m es')
    (ht : packetTimes a es' = packetTimes a es) : verdictsOf a m es' = verdictsOf a m es := by
  have hr : readings a es' = readings a es :=
    List.map_injective_iff.mpr (fun _ _ => BitVec.eq_of_toNat_eq) ht
  rw [verdictsOf_eq_judge hq' hl, verdictsOf_eq_judge hq hl, hr]

end PacketFilter.Kernel
