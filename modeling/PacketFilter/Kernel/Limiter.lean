import PacketFilter.Kernel.Runs
import PacketFilter.Library.Spacing

/-! The rate-limit check along a run: how far apart the packets of one address pass it. -/

namespace PacketFilter.Kernel

open Library Library.Programs Library.Spacing Prog

variable {N : ℕ}

def times (es : List (Event N)) : List ℕ := (es.filterMap Event.time?).map BitVec.toNat

@[simp] lemma times_cons (e : Event N) (es : List (Event N)) :
    times (e :: es) = (e.time?.map BitVec.toNat).toList ++ times es := by
  cases h : e.time? <;> simp [times, h]

def passTimes (a : Addr) : Maps N → List (Event N) → List ℕ
  | _, [] => []
  | m, e :: es =>
    (if PassesLimit m a e then (e.time?.map BitVec.toNat).toList else []) ++ passTimes a (step m e) es

lemma PassesLimit.packet {m : Maps N} {a : Addr} {e : Event N} (h : PassesLimit m a e) :
    ∃ f inp, e = .packet f inp ∧ f.saddr = a := by
  cases e with
  | packet f inp => exact ⟨f, inp, rfl, h.1.2.2⟩
  | configure s => exact h.1.elim
  | consume n => exact h.1.elim

lemma not_drops_of_passesLimit {m : Maps N} {f : Frame} {inp : Input}
    (h : PassesLimit m f.saddr (.packet f inp)) : ¬ m.Drops inp.now f.saddr := by
  intro hd
  have hv := verdict?_packet m f inp
  rw [if_pos ⟨h.1.1, h.1.2.1⟩, Maps.verdict, if_pos hd] at hv
  simp [h.2.2] at hv

lemma sub_lt_iff_of_le {a b c : BitVec 64} (h : a ≤ b) : b - a < c ↔ b.toNat < a.toNat + c.toNat := by
  rw [BitVec.lt_def, BitVec.toNat_sub_of_le h]
  rw [BitVec.le_def] at h
  omega

lemma apart_of_passesLimit {m : Maps N} {f : Frame} {inp : Input} {limit : IpRateLimit} {t : BitVec 64}
    (h : PassesLimit m f.saddr (.packet f inp)) (hl : m.settings.limitInForce f.saddr = some limit)
    (ht : m.ipTimestamps.get? f.saddr = some ⟨t⟩) (hle : t ≤ inp.now) :
    Apart limit.packetIntervalNs.toNat t.toNat inp.now.toNat := by
  have hd := not_drops_of_passesLimit h
  have hr : ¬ inp.now - t < limit.packetIntervalNs := fun hlt =>
    hd (Or.inr (Or.inr ⟨limit, hl, ⟨t⟩, ht, hlt⟩))
  rw [sub_lt_iff_of_le hle] at hr
  simpa [Apart] using hr

lemma passTimes_chain_from {m : Maps N} {es : List (Event N)} {a : Addr} {limit : IpRateLimit} {t : BitVec 64}
    (hl : ∀ x ∈ moments m es, x.1.settings.limitInForce a = some limit)
    (hs : (t.toNat :: times es).Pairwise (· ≤ ·)) (ht : m.ipTimestamps.get? a = some ⟨t⟩) :
    (t.toNat :: passTimes a m es).IsChain (Apart limit.packetIntervalNs.toNat) := by
  induction es generalizing m t with
  | nil => simp [passTimes]
  | cons e es ih =>
    have hr : ¬ m.ipTimestamps.Refuses a := by
      rintro ⟨hn, _⟩
      simp [(m.ipTimestamps.get?_eq_none a).mpr hn] at ht
    have hl' : ∀ x ∈ moments (step m e) es, x.1.settings.limitInForce a = some limit :=
      fun x hx => hl x (List.mem_cons_of_mem _ hx)
    have hg := get?_timestamps_step m e a
    rw [times_cons] at hs
    by_cases hp : PassesLimit m a e
    · obtain ⟨f, inp, rfl, rfl⟩ := hp.packet
      simp only [Event.time?, Option.map_some, Option.toList_some, List.singleton_append] at hs
      obtain ⟨hle, hs⟩ := List.pairwise_cons.mp hs
      rw [if_pos ⟨hp, hr⟩] at hg
      have hh := ih hl' hs hg
      simp only [passTimes, hp, if_true, Event.time?, Option.map_some, Option.toList_some, List.singleton_append]
      refine List.isChain_cons_cons.mpr ⟨?_, hh⟩
      exact apart_of_passesLimit hp (hl _ List.mem_cons_self) ht
        (BitVec.le_def.mpr (hle _ List.mem_cons_self))
    · rw [if_neg (fun h => hp h.1), ht] at hg
      have hs' : (t.toNat :: times es).Pairwise (· ≤ ·) :=
        hs.sublist (List.Sublist.cons_cons _ (List.sublist_append_right _ _))
      simpa [passTimes, hp] using ih hl' hs' hg

lemma passTimes_chain {m : Maps N} {es : List (Event N)} {a : Addr} {limit : IpRateLimit}
    (hl : ∀ x ∈ moments m es, x.1.settings.limitInForce a = some limit)
    (hroom : ∀ x ∈ moments m es, PassesLimit x.1 a x.2 → ¬ x.1.ipTimestamps.Refuses a)
    (hs : (times es).Pairwise (· ≤ ·)) :
    (passTimes a m es).IsChain (Apart limit.packetIntervalNs.toNat) := by
  induction es generalizing m with
  | nil => simp [passTimes]
  | cons e es ih =>
    have hl' : ∀ x ∈ moments (step m e) es, x.1.settings.limitInForce a = some limit :=
      fun x hx => hl x (List.mem_cons_of_mem _ hx)
    have hg := get?_timestamps_step m e a
    rw [times_cons] at hs
    by_cases hp : PassesLimit m a e
    · have hr := hroom _ List.mem_cons_self hp
      obtain ⟨f, inp, rfl, rfl⟩ := hp.packet
      simp only [Event.time?, Option.map_some, Option.toList_some, List.singleton_append] at hs
      rw [if_pos ⟨hp, hr⟩] at hg
      simpa [passTimes, hp, Event.time?] using passTimes_chain_from hl' hs hg
    · have hs' : (times es).Pairwise (· ≤ ·) := hs.sublist (List.sublist_append_right _ _)
      simpa [passTimes, hp] using ih hl' (fun x hx => hroom x (List.mem_cons_of_mem _ hx)) hs'

lemma refuses_timestamps_runAll {m : Maps N} {a : Addr} (h : m.ipTimestamps.Refuses a) (es : List (Event N)) :
    (runAll m es).ipTimestamps.Refuses a := by
  induction es generalizing m with
  | nil => exact h
  | cons e es ih =>
    apply ih
    refine ⟨?_, full_timestamps_step h.2 e⟩
    have hg := get?_timestamps_step m e a
    rw [if_neg (fun hp => hp.2 h)] at hg
    rw [← CellMap.get?_eq_none, hg, CellMap.get?_eq_none]
    exact h.1

lemma timestamp_runAll {m : Maps N} {es : List (Event N)} {a : Addr} {t : BitVec 64} {u : ℕ}
    (hs : (t.toNat :: times es ++ [u]).Pairwise (· ≤ ·)) (ht : m.ipTimestamps.get? a = some ⟨t⟩) :
    ∃ t' : BitVec 64, (runAll m es).ipTimestamps.get? a = some ⟨t'⟩ ∧ t.toNat ≤ t'.toNat ∧ t'.toNat ≤ u := by
  induction es generalizing m t with
  | nil => exact ⟨t, ht, le_rfl, by simpa [times] using hs⟩
  | cons e es ih =>
    have hr : ¬ m.ipTimestamps.Refuses a := by
      rintro ⟨hn, _⟩
      simp [(m.ipTimestamps.get?_eq_none a).mpr hn] at ht
    have hg := get?_timestamps_step m e a
    rw [times_cons] at hs
    by_cases hp : PassesLimit m a e
    · obtain ⟨f, inp, rfl, rfl⟩ := hp.packet
      simp only [Event.time?, Option.map_some, Option.toList_some, List.singleton_append] at hs
      obtain ⟨hle, hs⟩ := List.pairwise_cons.mp hs
      rw [if_pos ⟨hp, hr⟩] at hg
      obtain ⟨t', ht', hl, hu⟩ := ih hs hg
      exact ⟨t', ht', (hle _ List.mem_cons_self).trans hl, hu⟩
    · rw [if_neg (fun h => hp h.1), ht] at hg
      have hs' : (t.toNat :: times es ++ [u]).Pairwise (· ≤ ·) := by
        refine hs.sublist ?_
        simp
      exact ih hs' hg

lemma drop_iff_of_passesLimit {m : Maps N} {es : List (Event N)} {e : Event N} {a : Addr} {t now : BitVec 64}
    {limit : IpRateLimit} (hp : PassesLimit m a e) (ht : e.time? = some t)
    (hs : (t.toNat :: times es ++ [now.toNat]).Pairwise (· ≤ ·))
    (hl : (runAll m (e :: es)).settings.limitInForce a = some limit)
    (hw : ¬ (runAll m (e :: es)).settings.WhitelistDrops a) (hb : ¬ (runAll m (e :: es)).settings.BlacklistDrops a)
    (hnow : now.toNat < t.toNat + limit.packetIntervalNs.toNat) :
    (runAll m (e :: es)).Drops now a ↔ ¬ m.ipTimestamps.Refuses a := by
  have hg := get?_timestamps_step m e a
  constructor
  · rintro (h | h | ⟨_, _, s, hts, _⟩) hr
    · exact hw h
    · exact hb h
    · have hn := (CellMap.get?_eq_none _ a).mpr (refuses_timestamps_runAll hr (e :: es)).1
      rw [hn] at hts
      cases hts
  · intro hr
    rw [if_pos ⟨hp, hr⟩, ht] at hg
    obtain ⟨t', ht', hle, hu⟩ := timestamp_runAll hs hg
    refine Or.inr (Or.inr ⟨limit, hl, ⟨t'⟩, ht', ?_⟩)
    rw [sub_lt_iff_of_le (BitVec.le_def.mpr hu)]
    omega

def limiting (a : Addr) (limit : IpRateLimit) : Maps (N + 1) :=
  { Maps.zeroed with
    settings := {
      configState := Function.update (fun _ => 0) 1 1
      whitelistSubnets := .empty
      blacklistSubnets := .empty
      ipRateLimits := (BoundedMap.empty.update a limit).getD .empty } }

end PacketFilter.Kernel
