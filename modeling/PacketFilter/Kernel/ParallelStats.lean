import PacketFilter.Kernel.Accounting
import PacketFilter.Kernel.Pool
import PacketFilter.Library.Headcount

/-! The counters on several processors: when none of the packets of an address goes uncounted. -/

namespace PacketFilter.Kernel

open Library Library.Machines Point

variable {n N : ℕ}

def Point.stats? : Point → Option (Option ℕ)
  | .whitelistFlag _ stats | .whitelistMatch _ stats | .blacklistFlag _ stats | .blacklistMatch _ stats
  | .ratelimitFlag _ stats | .limitLookup _ stats | .timestampLookup _ stats _ | .timestampCreate _ stats
  | .timestampLoad _ stats _ _ | .timestampStore _ stats _ => some stats
  | .countIp p _ => some (some p)
  | _ => none

def Point.createsStats : Point → Bool
  | .statsCreate _ => true
  | _ => false

def Point.counted? : Point → Option XdpAction
  | .globalLookup action | .globalAdd action _ | .submit action | .logged action => some action
  | _ => none

def Point.added? : Point → Option XdpAction
  | .submit action | .logged action => some action
  | _ => none

def Point.logged? : Point → Option XdpAction
  | .logged action => some action
  | _ => none

def Point.finished : Point → Bool
  | .logged _ | .skipped => true
  | _ => false

def Thread.record? (t : Thread) : Option PacketLogs :=
  t.point.logged?.map fun action => { t.frame.log with isPassed := action.isPassed }

/-- Counters are set to zero only where they are missing, or zero and out of reach. -/
def Harmless (p : Pool n N) : Tick n → Prop
  | .run i _ => (p.threads i).point.createsStats →
      ¬ p.maps.ipStats.Refuses (p.threads i).frame.saddr ∧
      ∀ s ∈ p.maps.ipStats.get? (p.threads i).frame.saddr, s = ⟨0#64, 0#64⟩ ∧
        ∀ j, (p.threads j).frame.saddr = (p.threads i).frame.saddr → (p.threads j).point.stats? = none
  | .consume _ => True

instance (p : Pool n N) : (tick : Tick n) → Decidable (Harmless p tick)
  | .run _ _ => inferInstanceAs (Decidable (_ → _ ∧ _))
  | .consume _ => isTrue trivial

def Maps.statsOf (m : Maps N) (a : Addr) : PacketStats := (m.ipStats.get? a).getD ⟨0#64, 0#64⟩

structure Point.Holds (cell : Option ℕ) (pt : Point) : Prop where
  held : ∀ stats ∈ pt.stats?, stats = cell ∧ cell ≠ none
  created : ∀ now, pt = .statsAgain now → cell ≠ none
  counter : ∀ action i, pt = .globalAdd action i → i = action.index

def CountedFor (a : Addr) (action : XdpAction) (t : Thread) : Prop :=
  t.frame.saddr = a ∧ t.point.counted? = some action

instance (a : Addr) (action : XdpAction) : DecidablePred (CountedFor a action) :=
  fun _ => inferInstanceAs (Decidable (_ ∧ _))

structure Tallied (p : Pool n N) : Prop where
  holds : ∀ i, (p.threads i).point.Holds (p.maps.ipStats.lookup (p.threads i).frame.saddr)
  tracked : ∀ a action, (p.maps.statsOf a).count action = headcount (CountedFor a action) p.threads
  global : ∀ action : XdpAction,
    p.maps.globalStats action.index = headcount (fun t => t.point.added? = some action) p.threads
  logs : ∀ Q : PacketLogs → Bool,
    p.maps.packetRingbuf.submitted.countP Q = headcount (fun t => t.record?.any Q) p.threads

lemma of_unchecked {pt : Point} {now : BitVec 64} {stats : Option ℕ} (h : pt.unchecked = some (now, stats)) :
    pt.stats? = some stats ∧ pt.counted? = none ∧ pt.added? = none ∧ pt.logged? = none := by
  cases pt <;> simp_all [unchecked, stats?, counted?, added?, logged?]

lemma holds_of_stats? {cell stats : Option ℕ} {pt : Point} (h : pt.stats? = some stats)
    (hs : stats = cell ∧ cell ≠ none) : pt.Holds cell where
  held x hx := by
    obtain rfl : stats = x := by simpa [h] using hx
    exact hs
  created now hp := by
    subst hp
    cases h
  counter action i hp := by
    subst hp
    cases h

lemma holds_log {cell stats : Option ℕ} (hs : stats = cell ∧ cell ≠ none) (action : XdpAction) :
    (log action stats).Holds cell := by
  cases stats with
  | none => exact absurd hs.1.symm hs.2
  | some q => exact holds_of_stats? rfl hs

section Advances

variable {inp : Input} {m m' : Maps N} {f : Frame} {pt pt' : Point}

lemma holds_own (h : Advances inp m f pt pt' m') (hk : pt.Holds (m.ipStats.lookup f.saddr))
    (hr : pt.createsStats → ¬ m.ipStats.Refuses f.saddr) : pt'.Holds (m'.ipStats.lookup f.saddr) := by
  cases h with
  | statsFound now hl => exact holds_of_stats? rfl ⟨hl.symm, by simp [hl]⟩
  | statsCreate now =>
    have hu := CellMap.lookup_update (hr rfl) ⟨0#64, 0#64⟩ f.saddr
    exact ⟨nofun, fun _ _ => by simp [hu], nofun⟩
  | statsAgain now => exact holds_of_stats? rfl ⟨rfl, hk.created now rfl⟩
  | onward hp hp' => exact holds_of_stats? (of_unchecked hp').1 (hk.held _ (of_unchecked hp).1)
  | decided hp action => exact holds_log (hk.held _ (of_unchecked hp).1) action
  | limited now stats hl => exact holds_of_stats? rfl (hk.held stats rfl)
  | timestampFound now stats limit hl => exact holds_of_stats? rfl (hk.held stats rfl)
  | timestampMissing now stats limit hl => exact holds_of_stats? rfl (hk.held stats rfl)
  | timestampCreate now stats => exact holds_log (hk.held stats rfl) .pass
  | tooSoon now stats limit q => exact holds_log (hk.held stats rfl) .drop
  | inTime now stats limit q hd => exact holds_of_stats? rfl (hk.held stats rfl)
  | timestampStore now stats q => exact holds_log (hk.held stats rfl) .pass
  | globalLookup action => exact ⟨nofun, nofun, fun _ _ hp => by cases hp; rfl⟩
  | _ => exact ⟨nofun, nofun, nofun⟩

lemma lookup_stats_advances (h : Advances inp m f pt pt' m') {a : Addr} (ha : pt.createsStats → f.saddr ≠ a) :
    m'.ipStats.lookup a = m.ipStats.lookup a := by
  cases h with
  | statsCreate now =>
    by_cases hr : m.ipStats.Refuses f.saddr
    · rw [CellMap.update_of_refuses hr]
    · rw [CellMap.lookup_update hr, if_neg (Ne.symm (ha rfl))]
  | _ => rfl

lemma log_added? (action : XdpAction) (stats : Option ℕ) :
    (log action stats).added? = none ∧ (log action stats).logged? = none := by
  cases stats <;> exact ⟨rfl, rfl⟩

lemma log_counted? {cell stats : Option ℕ} (hs : stats = cell ∧ cell ≠ none) (action : XdpAction) :
    (log action stats).counted? = none := by
  cases stats with
  | none => exact absurd hs.1.symm hs.2
  | some q => rfl

lemma statsOf_update {m : Maps N} {b : Addr} (hr : ¬ m.ipStats.Refuses b)
    (hz : ∀ s ∈ m.ipStats.get? b, s = ⟨0#64, 0#64⟩) (a : Addr) :
    Maps.statsOf { m with ipStats := m.ipStats.update b ⟨0#64, 0#64⟩ } a = m.statsOf a := by
  rw [Maps.statsOf, Maps.statsOf, CellMap.get?_update hr]
  by_cases ha : a = b
  · subst a
    cases hg : m.ipStats.get? b with
    | none => simp
    | some s => simp [hz s hg]
  · rw [if_neg ha]

lemma statsOf_modify {m : Maps N} {b : Addr} {q : ℕ} (hl : m.ipStats.lookup b = some q) (v : XdpAction)
    (a : Addr) (action : XdpAction) :
    (Maps.statsOf { m with ipStats := m.ipStats.modify q (·.add v) } a).count action =
      (m.statsOf a).count action + if b = a ∧ v = action then 1 else 0 := by
  rw [Maps.statsOf, Maps.statsOf, CellMap.get?_modify_of_lookup hl]
  by_cases ha : a = b
  · subst a
    obtain ⟨s, hs⟩ := Option.ne_none_iff_exists'.mp
      (show m.ipStats.get? b ≠ none by simp [CellMap.get?_eq_none, hl])
    simp [hs, PacketStats.count_add]
  · simp [ha, Ne.symm ha]

lemma tracked_advances (h : Advances inp m f pt pt' m') (hk : pt.Holds (m.ipStats.lookup f.saddr))
    (hx : pt.createsStats → ¬ m.ipStats.Refuses f.saddr ∧ ∀ s ∈ m.ipStats.get? f.saddr, s = ⟨0#64, 0#64⟩)
    (a : Addr) (action : XdpAction) :
    (m'.statsOf a).count action + (if CountedFor a action ⟨f, pt⟩ then 1 else 0) =
      (m.statsOf a).count action + (if CountedFor a action ⟨f, pt'⟩ then 1 else 0) := by
  have hidle (hs : m'.statsOf a = m.statsOf a) (hc : pt'.counted? = pt.counted?) :
      (m'.statsOf a).count action + (if CountedFor a action ⟨f, pt⟩ then 1 else 0) =
        (m.statsOf a).count action + (if CountedFor a action ⟨f, pt'⟩ then 1 else 0) := by
    have hp : CountedFor a action ⟨f, pt⟩ ↔ CountedFor a action ⟨f, pt'⟩ := by simp only [CountedFor, hc]
    simp only [hs, hp]
  cases h with
  | statsCreate now => exact hidle (statsOf_update (hx rfl).1 (hx rfl).2 a) rfl
  | onward hp hp' => exact hidle rfl ((of_unchecked hp').2.1.trans (of_unchecked hp).2.1.symm)
  | decided hp v =>
    have hl := log_counted? (hk.held _ (of_unchecked hp).1) v
    exact hidle rfl (hl.trans (of_unchecked hp).2.1.symm)
  | timestampCreate now stats => exact hidle rfl (log_counted? (hk.held stats rfl) .pass)
  | tooSoon now stats limit q => exact hidle rfl (log_counted? (hk.held stats rfl) .drop)
  | timestampStore now stats q => exact hidle rfl (log_counted? (hk.held stats rfl) .pass)
  | countIp q v =>
    obtain ⟨hs, _⟩ := hk.held _ rfl
    rw [statsOf_modify hs.symm]
    simp [CountedFor, counted?]
  | _ => exact hidle rfl rfl

lemma global_advances (h : Advances inp m f pt pt' m') (hk : pt.Holds (m.ipStats.lookup f.saddr))
    (action : XdpAction) :
    m'.globalStats action.index + (if pt.added? = some action then 1 else 0) =
      m.globalStats action.index + (if pt'.added? = some action then 1 else 0) := by
  have hidle (hs : m'.globalStats = m.globalStats) (ha : pt'.added? = pt.added?) :
      m'.globalStats action.index + (if pt.added? = some action then 1 else 0) =
        m.globalStats action.index + (if pt'.added? = some action then 1 else 0) := by
    rw [hs, ha]
  cases h with
  | onward hp hp' => exact hidle rfl ((of_unchecked hp').2.2.1.trans (of_unchecked hp).2.2.1.symm)
  | decided hp v => exact hidle rfl ((log_added? v _).1.trans (of_unchecked hp).2.2.1.symm)
  | timestampCreate now stats => exact hidle rfl (log_added? _ _).1
  | tooSoon now stats limit q => exact hidle rfl (log_added? _ _).1
  | timestampStore now stats q => exact hidle rfl (log_added? _ _).1
  | globalAdd v i =>
    obtain rfl := hk.counter v i rfl
    by_cases hv : v = action
    · simp [hv, added?]
    · have hi : action.index ≠ v.index := fun hi => hv (index_injective.mp hi)
      simp [hv, added?, Function.update_of_ne hi]
  | _ => rfl

lemma logs_advances (h : Advances inp m f pt pt' m') (Q : PacketLogs → Bool) :
    m'.packetRingbuf.submitted.countP Q + (if (Thread.record? ⟨f, pt⟩).any Q then 1 else 0) =
      m.packetRingbuf.submitted.countP Q + (if (Thread.record? ⟨f, pt'⟩).any Q then 1 else 0) := by
  have hidle (hs : m'.packetRingbuf.submitted = m.packetRingbuf.submitted) (hl : pt'.logged? = pt.logged?) :
      m'.packetRingbuf.submitted.countP Q + (if (Thread.record? ⟨f, pt⟩).any Q then 1 else 0) =
        m.packetRingbuf.submitted.countP Q + (if (Thread.record? ⟨f, pt'⟩).any Q then 1 else 0) := by
    have hr : Thread.record? ⟨f, pt⟩ = Thread.record? ⟨f, pt'⟩ := by simp only [Thread.record?, hl]
    rw [hs, hr]
  cases h with
  | onward hp hp' => exact hidle rfl ((of_unchecked hp').2.2.2.trans (of_unchecked hp).2.2.2.symm)
  | decided hp v => exact hidle rfl ((log_added? v _).2.trans (of_unchecked hp).2.2.2.symm)
  | timestampCreate now stats => exact hidle rfl (log_added? _ _).2
  | tooSoon now stats limit q => exact hidle rfl (log_added? _ _).2
  | timestampStore now stats q => exact hidle rfl (log_added? _ _).2
  | submit v =>
    have hr : Thread.record? ⟨f, .submit v⟩ = none := rfl
    have hr' : Thread.record? ⟨f, .logged v⟩ = some { f.log with isPassed := v.isPassed } := rfl
    rw [hr, hr', Ringbuf.submit, List.countP_append, List.countP_singleton]
    rfl
  | _ => rfl

lemma holds_others (h : Advances inp m f pt pt' m') {a : Addr} {pt₀ : Point}
    (hk : pt₀.Holds (m.ipStats.lookup a))
    (hx : pt.createsStats → f.saddr = a → ¬ m.ipStats.Refuses a ∧ ∀ s ∈ m.ipStats.get? a, pt₀.stats? = none) :
    pt₀.Holds (m'.ipStats.lookup a) := by
  by_cases hc : pt.createsStats ∧ f.saddr = a
  · obtain ⟨hp, rfl⟩ := hc
    obtain ⟨hr, hs⟩ := hx hp rfl
    have hfree : pt₀.stats? = none := by
      by_contra hn
      obtain ⟨stats, hstats⟩ := Option.ne_none_iff_exists'.mp hn
      obtain ⟨_, hcell⟩ := hk.held stats hstats
      obtain ⟨s, hg⟩ := Option.ne_none_iff_exists'.mp (fun hg => hcell ((CellMap.get?_eq_none _ _).mp hg))
      exact hn (hs s hg)
    cases h with
    | statsCreate now =>
      have hu := CellMap.lookup_update hr ⟨0#64, 0#64⟩ f.saddr
      exact ⟨by simp [hfree], fun _ _ => by simp [hu], hk.counter⟩
    | _ => exact hk
  · rw [lookup_stats_advances h (fun hp ha => hc ⟨hp, ha⟩)]
    exact hk

end Advances

structure Fresh (m : Maps N) : Prop where
  ipStats : m.ipStats = .empty
  globalStats : m.globalStats = fun _ => 0
  submitted : m.packetRingbuf.submitted = []

lemma tallied_start {m : Maps N} (hm : Fresh m) (frames : Fin n → Frame) : Tallied (.start frames m) where
  holds _ := ⟨nofun, nofun, nofun⟩
  tracked a action := by
    rw [headcount_eq_zero (by simp [Pool.start, CountedFor, counted?])]
    cases action <;> simp [Pool.start, Maps.statsOf, hm.ipStats, PacketStats.count]
  global action := by
    rw [headcount_eq_zero (by simp [Pool.start, added?])]
    simp [Pool.start, hm.globalStats]
  logs Q := by
    rw [headcount_eq_zero (by simp [Pool.start, Thread.record?, logged?])]
    simp [Pool.start, hm.submitted]

lemma tallied_step {p p' : Pool n N} {tick : Tick n} (h : Tallied p) (hx : Harmless p tick)
    (hs : p.step tick = some p') : Tallied p' := by
  cases tick with
  | consume k =>
    cases hs
    exact ⟨h.holds, h.tracked, h.global, h.logs⟩
  | run i inp =>
    obtain ⟨pt, m, hm, rfl⟩ := Pool.step_run hs
    have hk := h.holds i
    constructor
    case holds =>
      apply Pool.forall_move (P := fun t => t.point.Holds (m.ipStats.lookup t.frame.saddr))
      · exact holds_own hm hk (fun hc => (hx hc).1)
      · intro j hj
        refine holds_others hm (h.holds j) (fun hc ha => ?_)
        rw [← ha]
        exact ⟨(hx hc).1, fun s hg => ((hx hc).2 s hg).2 j ha.symm⟩
    case tracked =>
      intro a action
      refine headcount_balance (h.tracked a action) (tracked_advances hm hk (fun hc => ?_) a action)
      exact ⟨(hx hc).1, fun s hg => ((hx hc).2 s hg).1⟩
    case global => exact fun action => headcount_balance (h.global action) (global_advances hm hk action)
    case logs => exact fun Q => headcount_balance (R := ℕ) (h.logs Q) (logs_advances hm Q)

section Finished

variable {p : Pool n N} (h : Tallied p) (hf : ∀ i, (p.threads i).point.finished)
include h hf

lemma count_eq_tally (a : Addr) (action : XdpAction) :
    (p.maps.statsOf a).count action = BitVec.ofNat 64 (tally p.maps.packetRingbuf.submitted a action) := by
  rw [h.tracked a action, tally, h.logs]
  refine congrArg _ (headcount_congr (fun i => ?_))
  have hi := hf i
  generalize p.threads i = t at hi
  obtain ⟨f, pt⟩ := t
  cases pt <;> simp_all [finished, CountedFor, counted?, Thread.record?, logged?, Frame.log, isPassed_injective]

lemma globalStats_eq_total (action : XdpAction) :
    p.maps.globalStats action.index = BitVec.ofNat 64 (total p.maps.packetRingbuf.submitted action) := by
  rw [h.global action, total, h.logs]
  refine congrArg _ (headcount_congr (fun i => ?_))
  have hi := hf i
  generalize p.threads i = t at hi
  obtain ⟨f, pt⟩ := t
  cases pt <;> simp_all [finished, added?, Thread.record?, logged?, isPassed_injective]

lemma sum_count (action : XdpAction) :
    ∑ a ∈ p.maps.ipStats.keys, (p.maps.statsOf a).count action = p.maps.globalStats action.index := by
  have hmem : ∀ r ∈ p.maps.packetRingbuf.submitted,
      r.ip ∈ p.maps.ipStats.keys ∪ (p.maps.packetRingbuf.submitted.map PacketLogs.ip).toFinset := by
    intro r hr
    simp only [Finset.mem_union, List.mem_toFinset]
    exact Or.inr (List.mem_map_of_mem hr)
  have hsum := congrArg (Nat.cast : ℕ → BitVec 64) (countP_eq_sum PacketLogs.ip (·.isPassed = action.isPassed) hmem)
  rw [Nat.cast_sum] at hsum
  calc ∑ a ∈ p.maps.ipStats.keys, (p.maps.statsOf a).count action
      = ∑ a ∈ p.maps.ipStats.keys ∪ (p.maps.packetRingbuf.submitted.map PacketLogs.ip).toFinset,
          (p.maps.statsOf a).count action := by
        refine Finset.sum_subset Finset.subset_union_left (fun a _ ha => ?_)
        rw [CellMap.mem_keys, not_not] at ha
        cases action <;> simp [Maps.statsOf, ha, PacketStats.count]
    _ = BitVec.ofNat 64 (total p.maps.packetRingbuf.submitted action) := by
        rw [Finset.sum_congr rfl (fun a _ => count_eq_tally h hf a action)]
        exact hsum.symm
    _ = p.maps.globalStats action.index := (globalStats_eq_total h hf action).symm

end Finished

theorem no_count_lost_of_harmless {m : Maps N} (hm : Fresh m) (frames : Fin n → Frame) {ticks : List (Tick n)}
    {p : Pool n N} (hp : runs Pool.step (.start frames m) ticks = some p)
    (hx : Along Pool.step Harmless (.start frames m) ticks) (hf : ∀ i, (p.threads i).point.finished) :
    let log := p.maps.packetRingbuf.submitted
    (∀ a s, p.maps.ipStats.get? a = some s →
      s.dropped = BitVec.ofNat 64 (log.countP (fun r => r.ip = a ∧ r.isPassed = 0)) ∧
      s.passed = BitVec.ofNat 64 (log.countP (fun r => r.ip = a ∧ r.isPassed = 1))) ∧
    (∑ a ∈ p.maps.ipStats.keys, (p.maps.statsOf a).dropped = p.maps.globalStats 0 ∧
      ∑ a ∈ p.maps.ipStats.keys, (p.maps.statsOf a).passed = p.maps.globalStats 1) := by
  have h : Tallied p := invariant_along (fun _ _ _ => tallied_step) (tallied_start hm frames) hx hp
  refine ⟨?_, sum_count h hf .drop, sum_count h hf .pass⟩
  intro a s hs
  have he : p.maps.statsOf a = s := by rw [Maps.statsOf, hs, Option.getD_some]
  rw [← he]
  exact ⟨count_eq_tally h hf a .drop, count_eq_tally h hf a .pass⟩

def firstPackets (a : Addr) : Pool 2 MAX_ENTRIES := .start (fun _ => .source a) .zeroed

theorem no_count_lost_created_twice :
    ∃ p : Pool 2 MAX_ENTRIES,
      runs Pool.step (firstPackets 0x0A000001#32)
        (.replicate 3 (.atTime 0 0) ++ .replicate 4 (.atTime 1 0) ++ .replicate 9 (.atTime 0 0) ++
          .replicate 8 (.atTime 1 0)) = some p ∧
      p.maps.ipStats.get? 0x0A000001#32 = some ⟨0#64, 2#64⟩ ∧
      (∀ a s, p.maps.ipStats.get? a = some s →
        s.dropped = BitVec.ofNat 64 (p.maps.packetRingbuf.submitted.countP (fun r => r.ip = a ∧ r.isPassed = 0)) ∧
        s.passed = BitVec.ofNat 64 (p.maps.packetRingbuf.submitted.countP (fun r => r.ip = a ∧ r.isPassed = 1))) ∧
      (∑ a ∈ p.maps.ipStats.keys, (p.maps.statsOf a).dropped = p.maps.globalStats 0 ∧
        ∑ a ∈ p.maps.ipStats.keys, (p.maps.statsOf a).passed = p.maps.globalStats 1) := by
  have hp := runs_reached Pool.step (firstPackets 0x0A000001#32)
    (.replicate 3 (.atTime 0 0) ++ .replicate 4 (.atTime 1 0) ++ .replicate 9 (.atTime 0 0) ++
      .replicate 8 (.atTime 1 0)) (by decide +kernel)
  have hf := no_count_lost_of_harmless ⟨rfl, rfl, rfl⟩ _ hp (by decide +kernel) (by decide +kernel)
  exact ⟨_, hp, by decide +kernel, hf⟩

theorem first_count_erased :
    ¬ ∀ (m : Maps MAX_ENTRIES) (frames : Fin 2 → Frame) (ticks : List (Tick 2)) (p : Pool 2 MAX_ENTRIES),
      Fresh m → runs Pool.step (.start frames m) ticks = some p →
      Along Pool.step (fun q _ => ¬ q.maps.ipStats.Full) (.start frames m) ticks → ¬ p.maps.ipStats.Full →
      (∀ i, (p.threads i).point.finished) →
      (∀ a s, p.maps.ipStats.get? a = some s →
        s.dropped = BitVec.ofNat 64 (p.maps.packetRingbuf.submitted.countP (fun r => r.ip = a ∧ r.isPassed = 0)) ∧
        s.passed = BitVec.ofNat 64 (p.maps.packetRingbuf.submitted.countP (fun r => r.ip = a ∧ r.isPassed = 1))) ∧
      (∑ a ∈ p.maps.ipStats.keys, (p.maps.statsOf a).dropped = p.maps.globalStats 0 ∧
        ∑ a ∈ p.maps.ipStats.keys, (p.maps.statsOf a).passed = p.maps.globalStats 1) := by
  intro h
  have hp := runs_reached Pool.step (firstPackets 0x0A000001#32)
    (.replicate 3 (.atTime 0 0) ++ .replicate 3 (.atTime 1 0) ++ .replicate 9 (.atTime 0 0) ++
      .replicate 9 (.atTime 1 0)) (by decide +kernel)
  obtain ⟨hs, _⟩ := h _ _ _ _ ⟨rfl, rfl, rfl⟩ hp (by decide +kernel) (by decide +kernel) (by decide +kernel)
  have hc := hs 0x0A000001#32 ⟨0#64, 1#64⟩ (by decide +kernel)
  revert hc
  decide +kernel

end PacketFilter.Kernel
