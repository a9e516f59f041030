import PacketFilter.Kernel.Runs

/-! Log records, counters and verdicts of a sequential run. -/

namespace PacketFilter.Kernel

open Library Library.Programs Prog

variable {N : ℕ}

def PacketStats.count (s : PacketStats) : XdpAction → BitVec 64
  | .drop => s.dropped
  | .pass => s.passed

lemma PacketStats.count_add (s : PacketStats) (v action : XdpAction) :
    (s.add v).count action = s.count action + if v = action then 1 else 0 := by
  cases v <;> cases action <;> simp [PacketStats.add, PacketStats.count]

def total (log : List PacketLogs) (action : XdpAction) : ℕ := log.countP (·.isPassed = action.isPassed)

def tally (log : List PacketLogs) (a : Addr) (action : XdpAction) : ℕ :=
  log.countP (fun r => r.ip = a ∧ r.isPassed = action.isPassed)

def record? (m : Maps N) : Event N → Option PacketLogs
  | .packet f inp =>
      if f.IsIpv4 ∧ m.HasSlot inp then
        some ⟨f.saddr, BitVec.ofNat 32 f.length, (run (exec inp) (xdpFilter f) m).1.isPassed⟩
      else none
  | _ => none

structure Accounts (m : Maps N) (log : List PacketLogs) : Prop where
  submitted : m.packetRingbuf.submitted = log
  reserved : m.packetRingbuf.reserved = log.length
  global : ∀ action, m.globalStats action.index = BitVec.ofNat 64 (total log action)
  tracked : ∀ a s, m.ipStats.get? a = some s → ∀ action, s.count action = BitVec.ofNat 64 (tally log a action)
  untracked : ∀ a, m.ipStats.get? a = none → (∀ action, tally log a action = 0) ∨ m.ipStats.Full

lemma accounts_zeroed : Accounts (Maps.zeroed : Maps N) [] where
  submitted := rfl
  reserved := rfl
  global _ := rfl
  tracked a s h := by simp [Maps.zeroed] at h
  untracked a _ := Or.inl (fun _ => rfl)

lemma isPassed_injective {v action : XdpAction} : v.isPassed = action.isPassed ↔ v = action := by
  cases v <;> cases action <;> simp [XdpAction.isPassed]

lemma index_injective {v action : XdpAction} : action.index = v.index ↔ v = action := by
  cases v <;> cases action <;> simp [XdpAction.index]

lemma total_concat (log : List PacketLogs) (a : Addr) (bytes : BitVec 32) (v action : XdpAction) :
    total (log ++ [⟨a, bytes, v.isPassed⟩]) action = total log action + if v = action then 1 else 0 := by
  simp [total, List.countP_append, List.countP_cons, isPassed_injective]

lemma tally_concat (log : List PacketLogs) (a b : Addr) (bytes : BitVec 32) (v action : XdpAction) :
    tally (log ++ [⟨b, bytes, v.isPassed⟩]) a action =
      tally log a action + if b = a ∧ v = action then 1 else 0 := by
  simp [tally, List.countP_append, List.countP_cons, isPassed_injective]

lemma ofNat_add_ite (n : ℕ) (p : Prop) [Decidable p] :
    BitVec.ofNat 64 n + (if p then 1 else 0) = BitVec.ofNat 64 (n + if p then 1 else 0) := by
  split_ifs <;> simp [BitVec.ofNat_add]

lemma get?_stats_filtered (m : Maps N) (f : Frame) (now : BitVec 64) (a : Addr) :
    (m.filtered f now).ipStats.get? a =
      if a = f.saddr then
        if m.ipStats.get? a = none ∧ ¬ m.ipStats.Full then
          some ((⟨0#64, 0#64⟩ : PacketStats).add (m.verdict now f.saddr))
        else (m.ipStats.get? a).map (·.add (m.verdict now f.saddr))
      else m.ipStats.get? a := by
  simp only [Maps.filtered, CellMap.get?_adjust, CellMap.get?_ensure]
  by_cases ha : a = f.saddr
  · subst a
    by_cases hn : m.ipStats.get? f.saddr = none ∧ ¬ m.ipStats.Full
    · simp [hn]
    · simp [hn]
  · simp [ha]

lemma full_stats_step {m : Maps N} (h : m.ipStats.Full) (e : Event N) : (step m e).ipStats.Full := by
  cases e with
  | configure s => exact h
  | consume n => exact h
  | packet f inp =>
    rw [step_packet]
    split_ifs
    · simp only [Maps.filtered, CellMap.full_adjust]
      exact CellMap.full_ensure h _ _
    · exact h

lemma accounts_filtered {m : Maps N} {log : List PacketLogs} (h : Accounts m log) (f : Frame) (now : BitVec 64) :
    Accounts (m.filtered f now) (log ++ [⟨f.saddr, BitVec.ofNat 32 f.length,
      (m.verdict now f.saddr).isPassed⟩]) where
  submitted := by simp [Maps.filtered, Ringbuf.submit, Ringbuf.reserve, Frame.log, h.submitted]
  reserved := by simp [Maps.filtered, Ringbuf.submit, Ringbuf.reserve, h.reserved]
  global action := by
    rw [total_concat, ← ofNat_add_ite, ← h.global]
    by_cases hv : m.verdict now f.saddr = action
    · simp [Maps.filtered, hv]
    · have hi : action.index ≠ (m.verdict now f.saddr).index := fun hi => hv (index_injective.mp hi)
      simp [Maps.filtered, hv, Function.update_of_ne hi]
  tracked a s hs action := by
    rw [tally_concat, ← ofNat_add_ite]
    rw [get?_stats_filtered] at hs
    split_ifs at hs with ha hn
    · subst a
      cases hs
      have ht := (h.untracked _ hn.1).resolve_right hn.2 action
      rw [PacketStats.count_add, ht]
      cases action <;> simp [PacketStats.count]
    · subst a
      obtain ⟨s', hs', rfl⟩ := Option.map_eq_some_iff.mp hs
      rw [PacketStats.count_add, h.tracked _ _ hs' action]
      simp
    · rw [h.tracked a s hs action]
      simp [Ne.symm ha]
  untracked a hn := by
    rw [get?_stats_filtered] at hn
    split_ifs at hn with ha hf
    · subst a
      have hg : m.ipStats.get? f.saddr = none := by simpa using hn
      have hfull : m.ipStats.Full := by
        by_contra hc
        exact hf ⟨hg, hc⟩
      right
      simp only [Maps.filtered, CellMap.full_adjust]
      exact CellMap.full_ensure hfull _ _
    · rcases h.untracked a hn with hz | hfull
      · left
        intro action
        rw [tally_concat, hz action]
        simp [Ne.symm ha]
      · right
        simp only [Maps.filtered, CellMap.full_adjust]
        exact CellMap.full_ensure hfull _ _

lemma accounts_step {m : Maps N} {log : List PacketLogs} (h : Accounts m log) (e : Event N) :
    Accounts (step m e) (log ++ (record? m e).toList) := by
  cases e with
  | configure s =>
    simp only [record?, Option.toList_none, List.append_nil]
    exact ⟨h.submitted, h.reserved, h.global, h.tracked, h.untracked⟩
  | consume n =>
    simp only [record?, Option.toList_none, List.append_nil]
    exact ⟨h.submitted, h.reserved, h.global, h.tracked, h.untracked⟩
  | packet f inp =>
    rw [step_packet, record?, run_xdpFilter]
    by_cases hc : f.IsIpv4 ∧ m.HasSlot inp
    · simp only [if_pos hc]
      exact accounts_filtered h f inp.now
    · simpa [hc] using h

def records (m : Maps N) (es : List (Event N)) : List PacketLogs :=
  (moments m es).filterMap (fun x => record? x.1 x.2)

lemma records_cons (m : Maps N) (e : Event N) (es : List (Event N)) :
    records m (e :: es) = (record? m e).toList ++ records (step m e) es := by
  cases h : record? m e <;> simp [records, moments, h]

lemma accounts_runAll {m : Maps N} {log : List PacketLogs} (h : Accounts m log) (es : List (Event N)) :
    Accounts (runAll m es) (log ++ records m es) := by
  induction es generalizing m log with
  | nil => simpa [records, moments] using h
  | cons e es ih =>
    rw [records_cons, ← List.append_assoc]
    exact ih (accounts_step h e)

lemma record?_of_drop {m : Maps N} {e : Event N} (h : verdict? m e = some .drop) :
    ∃ r, record? m e = some r ∧ r.isPassed = 0 := by
  cases e with
  | configure s => cases h
  | consume n => cases h
  | packet f inp =>
    by_cases hc : f.IsIpv4 ∧ m.HasSlot inp
    · refine ⟨_, if_pos hc, ?_⟩
      rw [Option.some.inj h]
      rfl
    · rw [verdict?_packet, if_neg hc] at h
      cases h

lemma refuses_stats_step {m : Maps N} {a : Addr} (h : m.ipStats.Refuses a) (e : Event N) :
    (step m e).ipStats.Refuses a := by
  obtain ⟨hn, hf⟩ := h
  refine ⟨?_, full_stats_step hf e⟩
  cases e with
  | configure s => exact hn
  | consume n => exact hn
  | packet f inp =>
    rw [step_packet]
    split_ifs
    · rw [← CellMap.get?_eq_none] at hn ⊢
      simp [get?_stats_filtered, hn, hf]
    · exact hn

lemma refuses_stats_runAll {m : Maps N} {a : Addr} (h : m.ipStats.Refuses a) (es : List (Event N)) :
    (runAll m es).ipStats.Refuses a := by
  induction es generalizing m with
  | nil => exact h
  | cons e es ih => exact ih (refuses_stats_step h e)

theorem runAll_accounts (es : List (Event N)) :
    let m := runAll .zeroed es
    let log := m.packetRingbuf.submitted
    (log = records .zeroed es ∧ m.packetRingbuf.reserved = log.length) ∧
    (∀ x ∈ moments .zeroed es, (step x.1 x.2).packetRingbuf.reserved =
      x.1.packetRingbuf.reserved + (record? x.1 x.2).toList.length) ∧
    (m.globalStats 0 = BitVec.ofNat 64 (log.countP (·.isPassed = 0)) ∧
      m.globalStats 1 = BitVec.ofNat 64 (log.countP (·.isPassed = 1))) ∧
    (∀ x ∈ moments .zeroed es, verdict? x.1 x.2 = some .drop →
      ∃ r ∈ log, record? x.1 x.2 = some r ∧ r.isPassed = 0) ∧
    (∀ a s, m.ipStats.get? a = some s →
      s.dropped = BitVec.ofNat 64 (log.countP (fun r => r.ip = a ∧ r.isPassed = 0)) ∧
      s.passed = BitVec.ofNat 64 (log.countP (fun r => r.ip = a ∧ r.isPassed = 1))) ∧
    (∀ before e after a, es = before ++ e :: after → Checked (runAll .zeroed before) a e →
      (runAll .zeroed before).ipStats.Refuses a → m.ipStats.get? a = none) := by
  intro m log
  have h : Accounts m (records .zeroed es) := accounts_runAll accounts_zeroed es
  have hl : log = records .zeroed es := h.submitted
  rw [← hl] at h
  refine ⟨⟨hl, h.reserved⟩, ?_, ⟨h.global .drop, h.global .pass⟩, ?_, ?_, ?_⟩
  · intro x _
    obtain ⟨m', e⟩ := x
    cases e with
    | configure s => rfl
    | consume n => rfl
    | packet f inp =>
      simp only [step_packet, record?]
      split_ifs <;> rfl
  · intro x hx hd
    obtain ⟨r, hr, hp⟩ := record?_of_drop hd
    refine ⟨r, ?_, hr, hp⟩
    rw [hl]
    exact List.mem_filterMap.mpr ⟨x, hx, hr⟩
  · intro a s hs
    exact ⟨h.tracked a s hs .drop, h.tracked a s hs .pass⟩
  · rintro before e after a rfl _ hr
    have hf : m.ipStats.Refuses a := by
      simp only [m, runAll_append, runAll_cons]
      exact refuses_stats_runAll (refuses_stats_step hr e) after
    exact (m.ipStats.get?_eq_none a).mpr hf.1

end PacketFilter.Kernel
