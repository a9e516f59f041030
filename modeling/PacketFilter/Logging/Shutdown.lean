import PacketFilter.Logging.AccessLogWriter

/-! What becomes of the records in the ring buffer when the log listener is stopped. -/

namespace PacketFilter.Logging

open Library.Machines Kernel

def DEFAULT_LOG_ACCESS_BUFFER_SIZE : ℕ := 100
def DEFAULT_LOG_ACCESS_TIMEOUT_MS : ℤ := 1000

inductive Poll where
  | delivers (clocks : ℕ → Clocks)
  | timesOut
  | interrupted
  | fails (err : ℤ)

def Poll.acts (ring : List PacketLogs) : Poll → List Act
  | .delivers clocks => ring.zipIdx.map (fun r => .deliver r.1 (clocks r.2)) ++ [.pollReturns ring.length]
  | .timesOut => [.pollReturns 0]
  | .interrupted => [.pollReturns (-EINTR)]
  | .fails err => [.pollReturns err]

inductive Event where
  | submit (log : PacketLogs)
  | stop
  | check
  | poll (p : Poll)
  | timeoutCheck (clocks : Clocks)
  | finish (clocks : Clocks)

namespace Event

def acts (ring : List PacketLogs) : Event → List Act
  | .submit _ => []
  | .stop => [.stop]
  | .check => [.check]
  | .poll p => p.acts ring
  | .timeoutCheck clocks => [.timeoutCheck clocks]
  | .finish clocks => [.finish clocks]

def submits : Event → List PacketLogs
  | .submit log => [log]
  | _ => []

def left (ring : List PacketLogs) : Event → List PacketLogs
  | .submit log => ring ++ [log]
  | .poll (.delivers _) => []
  | _ => ring

end Event

structure Pipeline where
  writer : Writer
  ring : List PacketLogs
  submitted : List PacketLogs
  deriving DecidableEq

namespace Pipeline

def start (lastWrite : ℤ) : Pipeline :=
  ⟨{ Writer.new DEFAULT_LOG_ACCESS_BUFFER_SIZE DEFAULT_LOG_ACCESS_TIMEOUT_MS lastWrite false with phase := .looping },
    [], []⟩

def step (s : Pipeline) (e : Event) : Option Pipeline :=
  (runs Logging.step s.writer (e.acts s.ring)).map (fun w => ⟨w, e.left s.ring, s.submitted ++ e.submits⟩)

end Pipeline

def Act.delivers : Act → List PacketLogs
  | .deliver log _ => [log]
  | _ => []

lemma delivered_step {w t : Writer} {a : Act} (h : step w a = some t) :
    t.delivered = w.delivered ++ a.delivers := by
  cases a with
  | deliver log clocks =>
    obtain ⟨-, rfl⟩ : w.phase = .polling ∧ _ = t := by simpa [step] using h
    exact delivered_handleLogEvent w log clocks
  | stop =>
    cases h
    simp [Act.delivers]
  | timeoutCheck clocks =>
    obtain ⟨-, rfl⟩ : w.phase = .polled ∧ _ = t := by simpa [step] using h
    split_ifs <;> simp [Act.delivers]
  | _ =>
    obtain ⟨-, rfl⟩ : _ ∧ _ = t := by simpa [step] using h
    simp [Act.delivers]

lemma delivered_runs {w t : Writer} {acts : List Act} (h : runs step w acts = some t) :
    t.delivered = w.delivered ++ acts.flatMap Act.delivers := by
  induction acts generalizing w with
  | nil =>
    cases h
    simp
  | cons a acts ih =>
    obtain ⟨u, hu, hr⟩ := runs_cons.mp h
    rw [ih hr, delivered_step hu, List.flatMap_cons, List.append_assoc]

lemma delivers_zipIdx (clocks : ℕ → Clocks) (ring : List PacketLogs) (n : ℕ) :
    ((ring.zipIdx n).map (fun r => Act.deliver r.1 (clocks r.2))).flatMap Act.delivers = ring := by
  induction ring generalizing n with
  | nil => rfl
  | cons log ring ih =>
    rw [List.zipIdx_cons, List.map_cons, List.flatMap_cons, ih]
    rfl

lemma delivers_acts (ring : List PacketLogs) (e : Event) :
    (e.acts ring).flatMap Act.delivers ++ e.left ring = ring ++ e.submits := by
  cases e with
  | poll p =>
    cases p with
    | delivers clocks =>
      simp [Event.acts, Poll.acts, Event.left, Event.submits, delivers_zipIdx, Act.delivers]
    | _ => simp [Event.acts, Poll.acts, Event.left, Event.submits, Act.delivers]
  | _ => simp [Event.acts, Event.left, Event.submits, Act.delivers]

section Runs

variable {s t : Pipeline} {e : Event} {events : List Event}

lemma step_iff : s.step e = some t ↔ runs step s.writer (e.acts s.ring) = some t.writer ∧ e.left s.ring = t.ring ∧
    s.submitted ++ e.submits = t.submitted := by
  simp only [Pipeline.step, Option.map_eq_some_iff]
  constructor
  · rintro ⟨w, hw, rfl⟩
    exact ⟨hw, rfl, rfl⟩
  · rintro ⟨hw, hring, hsubmitted⟩
    exact ⟨t.writer, hw, by rw [hring, hsubmitted]⟩

def Pipeline.Kept (s : Pipeline) : Prop := s.submitted = s.writer.delivered ++ s.ring

lemma kept_start (lastWrite : ℤ) : (Pipeline.start lastWrite).Kept := rfl

lemma kept_step (s : Pipeline) (e : Event) (t : Pipeline) (h : s.Kept) (he : s.step e = some t) : t.Kept := by
  obtain ⟨hw, hring, hsubmitted⟩ := step_iff.mp he
  rw [Pipeline.Kept, ← hring, ← hsubmitted, delivered_runs hw, List.append_assoc, delivers_acts, h,
    List.append_assoc]

lemma submitted_runs (h : runs Pipeline.step s events = some t) : s.submitted <+: t.submitted := by
  induction events generalizing s with
  | nil =>
    cases h
    exact List.prefix_rfl
  | cons e events ih =>
    obtain ⟨u, hu, hr⟩ := runs_cons.mp h
    have hprefix : s.submitted <+: u.submitted := ⟨e.submits, (step_iff.mp hu).2.2⟩
    exact hprefix.trans (ih hr)

lemma delivered_events (h : runs Pipeline.step s events = some t) : s.writer.delivered <+: t.writer.delivered := by
  induction events generalizing s with
  | nil =>
    cases h
    exact List.prefix_rfl
  | cons e events ih =>
    obtain ⟨u, hu, hr⟩ := runs_cons.mp h
    have hprefix : s.writer.delivered <+: u.writer.delivered := ⟨_, (delivered_runs (step_iff.mp hu).1).symm⟩
    exact hprefix.trans (ih hr)

lemma delivered_of_poll {clocks : ℕ → Clocks} (hkept : s.Kept) (h : runs Pipeline.step s events = some t)
    (hpoll : .poll (.delivers clocks) ∈ events) : s.submitted <+: t.writer.delivered := by
  obtain ⟨pre, post, rfl⟩ := List.append_of_mem hpoll
  obtain ⟨u, hu, hr⟩ := runs_append.mp h
  obtain ⟨v, hv, hr⟩ := runs_cons.mp hr
  have hv' : v.Kept := kept_step u _ v (invariant_runs kept_step hkept hu) hv
  obtain ⟨-, hring, hsubmitted⟩ := step_iff.mp hv
  have hall : v.submitted = v.writer.delivered := by
    rw [hv', ← hring]
    simp [Event.left]
  have hprefix : s.submitted <+: v.submitted := (submitted_runs hu).trans ⟨_, hsubmitted⟩
  exact (hall ▸ hprefix).trans (delivered_events hr)

lemma delivered_of_no_poll (h : runs Pipeline.step s events = some t)
    (hpoll : ¬ ∃ clocks, .poll (.delivers clocks) ∈ events) : t.writer.delivered = s.writer.delivered := by
  induction events generalizing s with
  | nil =>
    cases h
    rfl
  | cons e events ih =>
    obtain ⟨u, hu, hr⟩ := runs_cons.mp h
    have hrest : ¬ ∃ clocks, .poll (.delivers clocks) ∈ events :=
      fun ⟨clocks, hm⟩ => hpoll ⟨clocks, List.mem_cons_of_mem _ hm⟩
    have hnone : (e.acts s.ring).flatMap Act.delivers = [] := by
      cases e with
      | poll p =>
        cases p with
        | delivers clocks => exact absurd ⟨clocks, List.mem_cons_self⟩ hpoll
        | _ => rfl
      | _ => rfl
    rw [ih hr hrest, delivered_runs (step_iff.mp hu).1, hnone, List.append_nil]

end Runs

section Leaving

def Writer.Leaves (w : Writer) : Prop := w.exiting = true ∧ w.phase ≠ .polling

lemma leaves_step (w : Writer) (a : Act) (t : Writer) (h : w.Leaves) (ha : step w a = some t) : t.Leaves := by
  obtain ⟨hexiting, hphase⟩ := h
  cases a with
  | create created =>
    obtain ⟨-, rfl⟩ : w.phase = .opening ∧ _ = t := by simpa [step] using ha
    exact ⟨hexiting, by cases created <;> simp⟩
  | stop =>
    cases ha
    exact ⟨rfl, hphase⟩
  | check =>
    obtain ⟨-, rfl⟩ : w.phase = .looping ∧ _ = t := by simpa [step] using ha
    exact ⟨hexiting, by simp [hexiting]⟩
  | deliver log clocks =>
    obtain ⟨hp, -⟩ : w.phase = .polling ∧ _ = t := by simpa [step] using ha
    exact absurd hp hphase
  | pollReturns err =>
    obtain ⟨hp, -⟩ : w.phase = .polling ∧ _ = t := by simpa [step] using ha
    exact absurd hp hphase
  | timeoutCheck clocks =>
    obtain ⟨-, rfl⟩ : w.phase = .polled ∧ _ = t := by simpa [step] using ha
    refine ⟨?_, by simp⟩
    split_ifs <;> simp [hexiting]
  | finish clocks =>
    obtain ⟨-, rfl⟩ : w.phase = .leaving ∧ _ = t := by simpa [step] using ha
    exact ⟨hexiting, by simp⟩

lemma polling_of_poll {w t : Writer} {ring : List PacketLogs} {p : Poll} (h : runs step w (p.acts ring) = some t) :
    w.phase = .polling := by
  by_contra hp
  have hreturn : ∀ err, step w (.pollReturns err) = none := fun err => if_neg hp
  cases p with
  | delivers clocks =>
    cases ring with
    | nil => simp [Poll.acts, runs, hreturn] at h
    | cons log ring =>
      have hdeliver : step w (.deliver log (clocks 0)) = none := if_neg hp
      simp [Poll.acts, List.zipIdx_cons, runs, hdeliver] at h
  | _ => simp [Poll.acts, runs, hreturn] at h

lemma leaves_event (s : Pipeline) (e : Event) (t : Pipeline) (h : s.writer.Leaves) (he : s.step e = some t) :
    t.writer.Leaves :=
  invariant_runs leaves_step h (step_iff.mp he).1

lemma no_poll_of_leaves {s t : Pipeline} {events : List Event} {p : Poll} (h : s.writer.Leaves)
    (hr : runs Pipeline.step s events = some t) : .poll p ∉ events := by
  intro hpoll
  obtain ⟨pre, post, rfl⟩ := List.append_of_mem hpoll
  obtain ⟨u, hu, hr⟩ := runs_append.mp hr
  obtain ⟨v, hv, -⟩ := runs_cons.mp hr
  have hleaves : u.writer.Leaves := invariant_runs leaves_event h hu
  exact hleaves.2 (polling_of_poll (step_iff.mp hv).1)

lemma polling_at_stop {s t : Pipeline} {rest : List Event} {p : Poll}
    (h : runs Pipeline.step s (.stop :: rest) = some t) (hpoll : .poll p ∈ rest) : s.writer.phase = .polling := by
  by_contra hphase
  obtain ⟨u, hu, hr⟩ := runs_cons.mp h
  obtain ⟨hw, -, -⟩ := step_iff.mp hu
  have hwriter : u.writer = { s.writer with exiting := true } := by simpa [Event.acts, runs, step] using hw.symm
  have hleaves : u.writer.Leaves := by
    rw [hwriter]
    exact ⟨rfl, hphase⟩
  exact no_poll_of_leaves hleaves hr hpoll

end Leaving

lemma sound_event (s : Pipeline) (e : Event) (t : Pipeline) (h : s.writer.Sound DEFAULT_LOG_ACCESS_BUFFER_SIZE)
    (he : s.step e = some t) : t.writer.Sound DEFAULT_LOG_ACCESS_BUFFER_SIZE :=
  invariant_runs (sound_step _) h (step_iff.mp he).1

lemma sound_start (lastWrite : ℤ) : (Pipeline.start lastWrite).writer.Sound DEFAULT_LOG_ACCESS_BUFFER_SIZE :=
  (sound_new (by decide) _ _ _).goTo (by simp)

lemma logged_of_returned {w : Writer} {size : ℕ} (h : w.Sound size) (hw : w.phase = .returned true) :
    w.logged.map LogLine.shown = w.delivered.map shown := by
  have hall := h.accounts.all
  rwa [h.emptied hw, List.map_nil, List.append_nil] at hall

theorem shutdown_drains_iff (lastWrite : ℤ) (events rest : List Event) (s t : Pipeline)
    (hrun : runs Pipeline.step (.start lastWrite) events = some s)
    (hstop : runs Pipeline.step s (.stop :: rest) = some t) (hreturned : t.writer.phase = .returned true) :
    s.submitted.map shown <+: t.writer.logged.map LogLine.shown ↔
      s.ring = [] ∨ s.writer.phase = .polling ∧ ∃ clocks, .poll (.delivers clocks) ∈ rest := by
  have hkept : s.Kept := invariant_runs kept_step (kept_start lastWrite) hrun
  have hsound : t.writer.Sound DEFAULT_LOG_ACCESS_BUFFER_SIZE :=
    invariant_runs sound_event (invariant_runs sound_event (sound_start lastWrite) hrun) hstop
  rw [logged_of_returned hsound hreturned]
  constructor
  · intro hprefix
    by_contra hnot
    obtain ⟨hring, hpoll⟩ := not_or.mp hnot
    have hnone : ¬ ∃ clocks, .poll (.delivers clocks) ∈ .stop :: rest := by
      rintro ⟨clocks, hm⟩
      have hrest : .poll (.delivers clocks) ∈ rest := by simpa using hm
      exact hpoll ⟨polling_at_stop hstop hrest, clocks, hrest⟩
    have hlength := hprefix.length_le
    rw [delivered_of_no_poll hstop hnone, hkept] at hlength
    have hzero : s.ring.length = 0 := by simpa using hlength
    exact hring (List.length_eq_zero_iff.mp hzero)
  · rintro (hring | ⟨-, clocks, hpoll⟩)
    · rw [hkept, hring, List.append_nil]
      exact (delivered_events hstop).map shown
    · exact (delivered_of_poll hkept hstop (List.mem_cons_of_mem _ hpoll)).map shown

def lateSubmit : List Event :=
  [.check, .poll .timesOut, .timeoutCheck ⟨0, 1, 1⟩, .submit ⟨0x0A000001#32, 60, 1⟩]

def lateStop : List Event := [.check, .finish ⟨0, 2, 2⟩]

def polledSubmit : List Event := [.check, .submit ⟨0x0A000001#32, 60, 1⟩]

def polledStop : List Event :=
  [.poll (.delivers (fun _ => ⟨0, 1, 1⟩)), .timeoutCheck ⟨0, 1, 1⟩, .check, .finish ⟨0, 2, 2⟩]

theorem shutdown_drains_polled :
    ∃ s t, runs Pipeline.step (.start 0) polledSubmit = some s ∧
      runs Pipeline.step s (.stop :: polledStop) = some t ∧
      t.writer.phase = .returned true ∧ s.submitted.map shown <+: t.writer.logged.map LogLine.shown := by
  have hs := runs_reached Pipeline.step (.start 0) polledSubmit (by decide +kernel)
  have ht := runs_reached Pipeline.step (reached Pipeline.step (.start 0) polledSubmit) (.stop :: polledStop)
    (by decide +kernel)
  have hphase : (reached Pipeline.step (.start 0) polledSubmit).writer.phase = .polling := by decide +kernel
  have hreturned : (reached Pipeline.step (reached Pipeline.step (.start 0) polledSubmit)
      (.stop :: polledStop)).writer.phase = .returned true := by decide +kernel
  refine ⟨_, _, hs, ht, hreturned, (shutdown_drains_iff 0 _ _ _ _ hs ht hreturned).mpr (.inr ⟨hphase, ?_⟩)⟩
  exact ⟨_, List.mem_cons_self⟩

theorem shutdown_loses_record :
    ∃ s t, runs Pipeline.step (.start 0) lateSubmit = some s ∧
      runs Pipeline.step s (.stop :: lateStop) = some t ∧ t.writer.phase = .returned true ∧
      s.submitted = [⟨0x0A000001#32, 60, 1⟩] ∧ t.writer.logged = [] ∧
      ¬ s.submitted.map shown <+: t.writer.logged.map LogLine.shown := by
  have hs := runs_reached Pipeline.step (.start 0) lateSubmit (by decide +kernel)
  have ht := runs_reached Pipeline.step (reached Pipeline.step (.start 0) lateSubmit) (.stop :: lateStop)
    (by decide +kernel)
  have hlogged : (reached Pipeline.step (reached Pipeline.step (.start 0) lateSubmit)
      (.stop :: lateStop)).writer.logged = [] := by decide +kernel
  have hsubmitted : (reached Pipeline.step (.start 0) lateSubmit).submitted = [⟨0x0A000001#32, 60, 1⟩] := by
    decide +kernel
  refine ⟨_, _, hs, ht, by decide +kernel, hsubmitted, hlogged, ?_⟩
  rw [hlogged, hsubmitted]
  simp

end PacketFilter.Logging
