import PacketFilter.Kernel.Runs

/-! Which parts of the maps the verdicts of a run depend on. -/

namespace PacketFilter.Kernel

open Library Library.Programs Prog

variable {N : ℕ}

inductive Stimulus (N : ℕ) where
  | frame (f : Frame) (now : BitVec 64) (granted : Bool)
  | configure (s : Settings N)

def stimulus? (m : Maps N) : Event N → Option (Stimulus N)
  | .packet f inp => some (.frame f inp.now (decide (f.IsIpv4 ∧ m.HasSlot inp)))
  | .configure s => some (.configure s)
  | .consume _ => none

def stimuli (m : Maps N) (es : List (Event N)) : List (Stimulus N) :=
  (moments m es).filterMap (fun x => stimulus? x.1 x.2)

def verdicts (m : Maps N) (es : List (Event N)) : List XdpAction :=
  (moments m es).filterMap (fun x => verdict? x.1 x.2)

structure Core (N : ℕ) where
  settings : Settings N
  ipTimestamps : CellMap Addr PacketTimestamp N

namespace Core

def maps (c : Core N) : Maps N := ⟨c.settings, .empty, fun _ => 0, c.ipTimestamps, .empty⟩

def step (c : Core N) : Stimulus N → Core N
  | .frame f now granted =>
      if granted ∧ ¬ c.maps.Drops now f.saddr then { c with ipTimestamps := c.maps.stamped now f.saddr } else c
  | .configure s => { c with settings := s }

def answer? (c : Core N) : Stimulus N → Option XdpAction
  | .frame f now granted => some (if granted then c.maps.verdict now f.saddr else .pass)
  | .configure _ => none

def answers : Core N → List (Stimulus N) → List XdpAction
  | _, [] => []
  | c, x :: xs => (c.answer? x).toList ++ answers (c.step x) xs

end Core

def Maps.core (m : Maps N) : Core N := ⟨m.settings, m.ipTimestamps⟩

lemma core_filtered (m : Maps N) (f : Frame) (now : BitVec 64) :
    (m.filtered f now).core = m.core.step (.frame f now true) := by
  by_cases hd : m.Drops now f.saddr
  · have hn : ¬ (true = true ∧ ¬ m.core.maps.Drops now f.saddr) := fun h => h.2 hd
    rw [Core.step, if_neg hn]
    simp [Maps.core, Maps.filtered, hd]
  · have hp : true = true ∧ ¬ m.core.maps.Drops now f.saddr := ⟨rfl, hd⟩
    rw [Core.step, if_pos hp]
    simp only [Maps.core, Maps.filtered, if_neg hd]
    rfl

lemma core_step (m : Maps N) (e : Event N) :
    (step m e).core = (stimulus? m e).elim m.core m.core.step := by
  cases e with
  | configure s => rfl
  | consume n => rfl
  | packet f inp =>
    rw [step_packet]
    by_cases hc : f.IsIpv4 ∧ m.HasSlot inp
    · simpa [stimulus?, hc] using core_filtered m f inp.now
    · simp [stimulus?, Core.step, hc]

lemma verdict?_core (m : Maps N) (e : Event N) :
    verdict? m e = (stimulus? m e).bind m.core.answer? := by
  cases e with
  | configure s => rfl
  | consume n => rfl
  | packet f inp =>
    rw [verdict?_packet]
    by_cases hc : f.IsIpv4 ∧ m.HasSlot inp
    · simp only [stimulus?, Core.answer?, hc]
      rfl
    · simp [stimulus?, Core.answer?, hc]

lemma verdicts_eq_answers (m : Maps N) (es : List (Event N)) :
    verdicts m es = m.core.answers (stimuli m es) := by
  induction es generalizing m with
  | nil => rfl
  | cons e es ih =>
    have hs := core_step m e
    have hv := verdict?_core m e
    have hh := ih (step m e)
    simp only [verdicts, stimuli, moments, List.filterMap_cons] at hh ⊢
    cases hx : stimulus? m e with
    | none =>
      rw [hx] at hs hv
      rw [show verdict? m e = none from hv, hh, hs]
      rfl
    | some x =>
      rw [hx] at hs hv
      rw [show verdict? m e = m.core.answer? x from hv, hh, hs, Core.answers, Option.elim_some]
      cases m.core.answer? x <;> rfl

lemma drop_iff_of_blacklisted {m : Maps N} {f : Frame} {inp : Input} (hf : f.IsIpv4)
    (hb : m.settings.BlacklistDrops f.saddr) : verdict? m (.packet f inp) = some .drop ↔ m.HasSlot inp := by
  have hd : m.verdict inp.now f.saddr = .drop := if_pos (Or.inr (Or.inl hb))
  rw [verdict?_packet]
  by_cases hs : m.HasSlot inp <;> simp [hf, hs, hd]

theorem verdicts_independent_of_logging (m m' : Maps N) (es es' : List (Event N))
    (hsettings : m.settings = m'.settings) (htimestamps : m.ipTimestamps = m'.ipTimestamps)
    (hstimuli : stimuli m es = stimuli m' es') :
    verdicts m es = verdicts m' es' ∧
    ∀ x ∈ moments m es ++ moments m' es', ∀ f inp, x.2 = .packet f inp → f.IsIpv4 →
      x.1.settings.BlacklistDrops f.saddr → (verdict? x.1 x.2 = some .drop ↔ x.1.HasSlot inp) := by
  have hcore : m.core = m'.core := by rw [Maps.core, Maps.core, hsettings, htimestamps]
  constructor
  · rw [verdicts_eq_answers, verdicts_eq_answers, hstimuli, hcore]
  · rintro ⟨n, e⟩ _ f inp rfl hf hb
    exact drop_iff_of_blacklisted hf hb

section Unread

def Event.arrival? : Event N → Option (Frame × BitVec 64 ⊕ Settings N)
  | .packet f inp => some (.inl (f, inp.now))
  | .configure s => some (.inr s)
  | .consume _ => none

def arrivals (es : List (Event N)) : List (Frame × BitVec 64 ⊕ Settings N) := es.filterMap Event.arrival?

lemma verdicts_cons (m : Maps N) (e : Event N) (es : List (Event N)) :
    verdicts m (e :: es) = (verdict? m e).toList ++ verdicts (step m e) es := by
  cases h : verdict? m e <;> simp [verdicts, moments, h]

lemma verdicts_append (m : Maps N) (es fs : List (Event N)) :
    verdicts m (es ++ fs) = verdicts m es ++ verdicts (runAll m es) fs := by
  induction es generalizing m with
  | nil => rfl
  | cons e es ih => rw [List.cons_append, verdicts_cons, verdicts_cons, ih, runAll_cons, List.append_assoc]

def attack (a : Addr) : Event N := .packet (.source a) ⟨0#64, false⟩

variable {m : Maps N} {a : Addr}

lemma step_attack (hr : m.packetRingbuf.HasRoom) : step m (attack a) = m.filtered (.source a) 0#64 := by
  rw [attack, step_packet, if_pos ⟨Frame.source_isIpv4 a, rfl, hr⟩]

lemma runAll_unread (n : ℕ) (hc : m.packetRingbuf.consumed = 0) (hn : m.packetRingbuf.reserved + n ≤ 699050) :
    (runAll m (List.replicate n (attack a))).packetRingbuf.consumed = 0 ∧
      (runAll m (List.replicate n (attack a))).packetRingbuf.reserved = m.packetRingbuf.reserved + n := by
  induction n generalizing m with
  | zero => exact ⟨hc, rfl⟩
  | succ n ih =>
    have hr : m.packetRingbuf.HasRoom := by
      simp only [Ringbuf.HasRoom, RECORD_SIZE, RINGBUF_SIZE, hc]
      omega
    have hf : (m.filtered (.source a) 0#64).packetRingbuf.reserved = m.packetRingbuf.reserved + 1 := rfl
    have hh := ih (m := m.filtered (.source a) 0#64) hc (by omega)
    rw [List.replicate_succ, runAll_cons, step_attack hr]
    exact ⟨hh.1, hh.2.trans (by omega)⟩

lemma verdicts_unread {n : ℕ} (hn : n = 699050) (hm : m.packetRingbuf = .empty) :
    .pass ∈ verdicts m (List.replicate (n + 1) (attack a)) := by
  have he : m.packetRingbuf.consumed = 0 ∧ m.packetRingbuf.reserved = 0 := by simp [hm, Ringbuf.empty]
  obtain ⟨hc, hr⟩ := runAll_unread (m := m) (a := a) n he.1 (by omega)
  have hf : ¬ (runAll m (List.replicate n (attack a))).packetRingbuf.HasRoom := by
    simp only [Ringbuf.HasRoom, hc, hr, he.2, RECORD_SIZE, RINGBUF_SIZE]
    omega
  have hv : verdict? (runAll m (List.replicate n (attack a))) (attack a) = some .pass := by
    rw [attack, verdict?_packet, if_neg (fun h => hf h.2.2)]
  rw [List.replicate_succ', verdicts_append, verdicts_cons, hv]
  simp

def drained (n : ℕ) (a : Addr) : List (Event N) := (List.replicate n [attack a, .consume 1]).flatten

lemma arrivals_drained (n : ℕ) :
    arrivals (drained n a : List (Event N)) = arrivals (List.replicate n (attack a)) := by
  induction n with
  | zero => rfl
  | succ n ih =>
    rw [drained] at ih ⊢
    simp only [arrivals, List.replicate_succ, List.flatten_cons, List.filterMap_append, List.filterMap_cons,
      attack, Event.arrival?, List.filterMap_nil] at ih ⊢
    rw [ih]
    rfl

lemma verdicts_drained (n : ℕ) (hb : m.settings.BlacklistDrops a) (hr : m.packetRingbuf.Drained) :
    ∀ v ∈ verdicts m (drained n a), v = .drop := by
  induction n generalizing m with
  | zero => simp [drained, verdicts, moments]
  | succ n ih =>
    have hv : verdict? m (attack a) = some .drop := by
      refine (drop_iff_of_blacklisted (Frame.source_isIpv4 a) ?_).mpr ⟨rfl, hr.hasRoom⟩
      rwa [Frame.source_saddr]
    have hs : (step (step m (attack a)) (.consume 1)).settings.BlacklistDrops a :=
      (settings_packet m (.source a) ⟨0#64, false⟩).symm ▸ hb
    have hh := ih hs (drained_step hr (.source a) ⟨0#64, false⟩)
    intro v hm
    rw [drained, List.replicate_succ, List.flatten_cons] at hm
    simp only [List.cons_append, List.nil_append, verdicts_cons, hv] at hm
    simp only [Option.toList_some, verdict?, Option.toList_none, List.nil_append, List.singleton_append,
      List.mem_cons] at hm
    rcases hm with rfl | hm
    · rfl
    · exact hh v hm

def blacklisting (a : Addr) : Maps 1 :=
  { Maps.zeroed with
    settings := {
      configState := Function.update (fun _ => 0) 0 1
      whitelistSubnets := .empty
      blacklistSubnets := (BoundedMap.empty.update (.of 32 le_rfl a) 1).getD .empty
      ipRateLimits := .empty } }

theorem unread_log_lifts_blacklist :
    ¬ ∀ (m m' : Maps 1) (es es' : List (Event 1)), m.settings = m'.settings →
      m.ipTimestamps = m'.ipTimestamps → arrivals es = arrivals es' → verdicts m es = verdicts m' es' := by
  intro h
  let a : Addr := 0x0A000001#32
  have hb : (blacklisting a).settings.BlacklistDrops a := by decide +kernel
  have hv := h (blacklisting a) (blacklisting a) (List.replicate (699050 + 1) (attack a))
    (drained (699050 + 1) a) rfl rfl (arrivals_drained _).symm
  have hp : .pass ∈ verdicts (blacklisting a) (List.replicate (699050 + 1) (attack a)) := verdicts_unread rfl rfl
  rw [hv] at hp
  exact absurd (verdicts_drained _ hb ⟨rfl, rfl⟩ _ hp) (by decide)

def busy (a : Addr) : Maps 1 :=
  { blacklisting a with
    globalStats := fun _ => 7
    packetRingbuf := ⟨2, [⟨a, 34, 0⟩, ⟨a, 34, 0⟩], 1⟩ }

theorem verdicts_busy :
    verdicts (blacklisting 0x0A000001#32) [attack 0x0A000001#32, attack 0x0A000001#32] =
      verdicts (busy 0x0A000001#32) [attack 0x0A000001#32, .consume 1, attack 0x0A000001#32] :=
  (verdicts_independent_of_logging (blacklisting 0x0A000001#32) (busy 0x0A000001#32)
    [attack 0x0A000001#32, attack 0x0A000001#32]
    [attack 0x0A000001#32, .consume 1, attack 0x0A000001#32] rfl rfl rfl).1

end Unread

end PacketFilter.Kernel
