import PacketFilter.Engine.CsvLog

/-! How `main` of packetfilter.cpp comes to its end: the thread it joins leaves its loop at the raised flag. -/

namespace PacketFilter.Engine

open Library Library.Machines
open Kernel (PacketLogs)
open Logging (Clocks EINTR)

def LogPhase.Loops : LogPhase → Prop
  | .looping | .polling => True
  | .polled err => ¬ (err < 0 ∧ err ≠ -EINTR)
  | _ => False

namespace SessionAct

def Calm : SessionAct → Prop
  | .signal => False
  | .pollReturns err => ¬ (err < 0 ∧ err ≠ -EINTR)
  | _ => True

def moves : SessionAct → Bool
  | .signal | .deliver _ _ => false
  | _ => true

def sets : SessionAct → Bool
  | .signal | .failRewatch => true
  | _ => false

end SessionAct

section Joining

variable {s t : Session} {a : SessionAct} {acts : List SessionAct}

open Session

@[simp] lemma flushBuffer_main (s : Session) (written : ℤ) : (s.flushBuffer written).main = s.main :=
  (flushBuffer_fields s written).1

@[simp] lemma flushBuffer_thread (s : Session) (written : ℤ) : (s.flushBuffer written).thread = s.thread :=
  (flushBuffer_fields s written).2.1

@[simp] lemma flushBuffer_exiting (s : Session) (written : ℤ) : (s.flushBuffer written).exiting = s.exiting := by
  unfold Session.flushBuffer
  split
  · rfl
  · split_ifs <;> rfl

@[simp] lemma handleLogEvent_exiting (s : Session) (log : PacketLogs) (clocks : Clocks) :
    (s.handleLogEvent log clocks).exiting = s.exiting := by
  simp only [Session.handleLogEvent]
  split_ifs
  · rfl
  · exact flushBuffer_exiting _ _
  · rfl

lemma afterPoll_fields (s : Session) (err : ℤ) (clocks : Clocks) :
    (s.afterPoll err clocks).main = s.main ∧ (s.afterPoll err clocks).exiting = s.exiting ∧
      (s.afterPoll err clocks).thread = if err < 0 ∧ err ≠ -EINTR then .leaving else .looping := by
  by_cases hflush : s.timedOut clocks.steady ∧ s.buffer ≠ []
  · rw [Session.afterPoll, if_pos hflush]
    exact ⟨flushBuffer_main _ _, flushBuffer_exiting _ _, rfl⟩
  · rw [Session.afterPoll, if_neg hflush]
    exact ⟨rfl, rfl, rfl⟩

lemma step_exiting (h : step s a = some t) : t.exiting = (s.exiting || a.sets) := by
  cases a with
  | failRewatch =>
    obtain ⟨-, rfl⟩ := by simpa [step] using h
    simp [SessionAct.sets]
  | signal =>
    obtain ⟨-, rfl⟩ := by simpa [step] using h
    simp [SessionAct.sets]
  | openFile opened =>
    simp only [step, Option.ite_none_right_eq_some] at h
    obtain ⟨-, h⟩ := h
    split_ifs at h <;> cases h <;> simp [SessionAct.sets]
  | report =>
    simp only [step] at h
    split at h <;> cases h
    simp [SessionAct.sets]
  | join =>
    simp only [step] at h
    split at h
    · obtain ⟨-, rfl⟩ := by simpa using h
      simp [SessionAct.sets]
    · cases h
  | afterPoll clocks =>
    simp only [step] at h
    split at h
    · next err hthread =>
      cases h
      simp [SessionAct.sets, (afterPoll_fields s err clocks).2.1]
    · cases h
  | _ =>
    obtain ⟨-, rfl⟩ := by simpa [step] using h
    simp [SessionAct.sets]

lemma runs_exiting (h : runs step s acts = some t) : t.exiting = (s.exiting || acts.any SessionAct.sets) := by
  induction acts generalizing s with
  | nil =>
    cases h
    simp
  | cons a acts ih =>
    obtain ⟨u, hu, hr⟩ := runs_cons.mp h
    rw [ih hr, step_exiting hu, List.any_cons, Bool.or_assoc]

inductive Passes (exiting : Bool) : SessionAct → LogPhase → LogPhase → Prop
  | signal (place : LogPhase) : Passes exiting .signal place place
  | deliver (log : PacketLogs) (clocks : Clocks) : Passes exiting (.deliver log clocks) .polling .polling
  | openFile (opened : Bool) : Passes exiting (.openFile opened) .opening (if opened then .creating else .returned)
  | create (created : Bool) (now : ℤ) :
      Passes exiting (.create created now) .creating (if created then .looping else .returned)
  | check : Passes exiting .check .looping (if exiting then .leaving else .polling)
  | pollReturns (err : ℤ) : Passes exiting (.pollReturns err) .polling (.polled err)
  | afterPoll (err : ℤ) (clocks : Clocks) :
      Passes exiting (.afterPoll clocks) (.polled err) (if err < 0 ∧ err ≠ -EINTR then .leaving else .looping)
  | finish (clocks : Clocks) : Passes exiting (.finish clocks) .leaving .returned

lemma step_cleaning {err : ℤ} (hmain : s.main = .cleaning err) (h : step s a = some t) :
    (a = .join ∧ (s.thread = .unstarted ∨ s.thread = .returned) ∧ t.thread = s.thread ∧
      ∃ status, t.main = .returned status) ∨
    (t.main = .cleaning err ∧ Passes s.exiting a s.thread t.thread) := by
  cases a with
  | join =>
    simp only [step, hmain] at h
    obtain ⟨hthread, rfl⟩ := by simpa using h
    exact .inl ⟨rfl, hthread, rfl, _, rfl⟩
  | signal =>
    obtain ⟨-, rfl⟩ := by simpa [step] using h
    exact .inr ⟨hmain, .signal s.thread⟩
  | openFile opened =>
    simp only [step, Option.ite_none_right_eq_some] at h
    obtain ⟨hthread, h⟩ := h
    rw [hthread]
    split_ifs at h with hopened <;> cases h
    · exact .inr ⟨hmain, by simpa [hopened] using @Passes.openFile s.exiting true⟩
    · exact .inr ⟨hmain, by simpa [hopened] using @Passes.openFile s.exiting false⟩
  | create created now =>
    obtain ⟨hthread, rfl⟩ := by simpa [step] using h
    rw [hthread]
    exact .inr ⟨hmain, .create created now⟩
  | check =>
    obtain ⟨hthread, rfl⟩ := by simpa [step] using h
    rw [hthread]
    exact .inr ⟨hmain, .check⟩
  | deliver log clocks =>
    obtain ⟨hthread, rfl⟩ := by simpa [step] using h
    obtain ⟨hm, hth, -⟩ := handleLogEvent_fields s log clocks
    refine .inr ⟨hm.trans hmain, ?_⟩
    rw [hth, hthread]
    exact .deliver log clocks
  | pollReturns err =>
    obtain ⟨hthread, rfl⟩ := by simpa [step] using h
    rw [hthread]
    exact .inr ⟨hmain, .pollReturns err⟩
  | afterPoll clocks =>
    simp only [step] at h
    split at h
    · next err hthread =>
      cases h
      obtain ⟨hm, -, hth⟩ := afterPoll_fields s err clocks
      rw [hm, hth, hthread]
      exact .inr ⟨hmain, .afterPoll err clocks⟩
    · cases h
  | finish clocks =>
    obtain ⟨hthread, rfl⟩ := by simpa [step] using h
    rw [hthread]
    exact .inr ⟨hmain, .finish clocks⟩
  | _ => simp [step, hmain] at h

lemma Passes.loops {place next : LogPhase} (h : Passes false a place next) (hloops : place.Loops)
    (hcalm : a.Calm) :
    next.Loops := by
  cases h with
  | signal => exact hcalm.elim
  | deliver log clocks => trivial
  | openFile opened => exact hloops.elim
  | create created now => exact hloops.elim
  | check => trivial
  | pollReturns err => exact hcalm
  | afterPoll err clocks =>
    rw [if_neg hloops]
    trivial
  | finish clocks => exact hloops.elim

lemma waits_forever {err : ℤ} (hmain : s.main = .cleaning err) (hexiting : s.exiting = false)
    (hloops : s.thread.Loops) (hcalm : ∀ a ∈ acts, a.Calm) (h : runs step s acts = some t) :
    t.main = .cleaning err := by
  induction acts generalizing s with
  | nil =>
    cases h
    exact hmain
  | cons a acts ih =>
    obtain ⟨u, hu, hr⟩ := runs_cons.mp h
    have ha := hcalm a List.mem_cons_self
    rcases step_cleaning hmain hu with ⟨-, hthread, -⟩ | ⟨hm, hpasses⟩
    · rcases hthread with hthread | hthread <;> rw [hthread] at hloops <;> exact hloops.elim
    · have hflag : u.exiting = false := by
        rw [step_exiting hu, hexiting]
        cases a with
        | signal => exact ha.elim
        | failRewatch => cases hpasses
        | _ => rfl
      rw [hexiting] at hpasses
      exact ih hm hflag (hpasses.loops hloops ha) (fun b hb => hcalm b (List.mem_cons_of_mem _ hb)) hr

def LogPhase.left : LogPhase → ℕ
  | .unstarted | .returned => 0
  | .leaving => 1
  | .looping => 2
  | .creating | .polled _ => 3
  | .opening | .polling => 4

def MainAt.left : MainAt → ℕ
  | .returned _ => 0
  | _ => 1

lemma Passes.left_lt {place next : LogPhase} (h : Passes true a place next) :
    (if a.moves then 1 else 0) + next.left ≤ place.left := by
  cases h with
  | openFile opened => cases opened <;> decide
  | create created now => cases created <;> simp [SessionAct.moves, LogPhase.left]
  | afterPoll err clocks => split_ifs <;> simp [LogPhase.left]
  | _ => simp [SessionAct.moves, LogPhase.left]

def Closing (s : Session) : Prop :=
  (∃ err, s.main = .cleaning err) ∨
    ((∃ status, s.main = .returned status) ∧ (s.thread = .unstarted ∨ s.thread = .returned))

lemma step_returned {status : ℤ} (hmain : s.main = .returned status)
    (hthread : s.thread = .unstarted ∨ s.thread = .returned) (h : step s a = some t) :
    a = .signal ∧ t.main = s.main ∧ t.thread = s.thread := by
  cases a with
  | signal =>
    obtain ⟨-, rfl⟩ := by simpa [step] using h
    exact ⟨rfl, rfl, rfl⟩
  | _ => rcases hthread with hthread | hthread <;> simp [step, hmain, hthread] at h

lemma step_closing (hs : Closing s) (hexiting : s.exiting = true) (h : step s a = some t) :
    Closing t ∧ (if a.moves then 1 else 0) + (t.main.left + t.thread.left) ≤ s.main.left + s.thread.left := by
  rcases hs with ⟨err, hmain⟩ | ⟨⟨status, hmain⟩, hthread⟩
  · rcases step_cleaning hmain h with ⟨rfl, hthread, hsame, status, hreturned⟩ | ⟨hm, hpasses⟩
    · refine ⟨.inr ⟨⟨status, hreturned⟩, by rwa [hsame]⟩, ?_⟩
      rw [hreturned, hsame, hmain]
      simp [SessionAct.moves, MainAt.left]
    · rw [hexiting] at hpasses
      have hleft := hpasses.left_lt
      refine ⟨.inl ⟨err, hm⟩, ?_⟩
      rw [hm, hmain]
      omega
  · obtain ⟨rfl, hm, hth⟩ := step_returned hmain hthread h
    refine ⟨.inr ⟨⟨status, hm.trans hmain⟩, by rwa [hth]⟩, ?_⟩
    rw [hm, hth]
    simp [SessionAct.moves]

lemma runs_closing (hs : Closing s) (hexiting : s.exiting = true) (h : runs step s acts = some t) :
    Closing t ∧ acts.countP SessionAct.moves + (t.main.left + t.thread.left) ≤ s.main.left + s.thread.left := by
  have hstep (u : Session) (a : SessionAct) (v : Session) (hu : Closing u ∧ u.exiting = true) (_ : True)
      (hv : step u a = some v) : (Closing v ∧ v.exiting = true) ∧
        (if a.moves then 1 else 0) + (v.main.left + v.thread.left) ≤ u.main.left + u.thread.left := by
    obtain ⟨hclosing, hle⟩ := step_closing hu.1 hu.2 hv
    exact ⟨⟨hclosing, by rw [step_exiting hv, hu.2, Bool.true_or]⟩, hle⟩
  obtain ⟨⟨ht, -⟩, hle⟩ := countP_add_le hstep ⟨hs, hexiting⟩ (fun _ _ => trivial) h
  exact ⟨ht, hle⟩

lemma exists_move {err : ℤ} (hmain : s.main = .cleaning err) : ∃ a, a.moves = true ∧ (step s a).isSome := by
  cases hthread : s.thread with
  | unstarted => exact ⟨.join, rfl, by simp [step, hmain, hthread]⟩
  | opening => exact ⟨.openFile true, rfl, by simp [step, hthread]⟩
  | creating => exact ⟨.create true 0, rfl, by simp [step, hthread]⟩
  | looping => exact ⟨.check, rfl, by simp [step, hthread]⟩
  | polling => exact ⟨.pollReturns 0, rfl, by simp [step, hthread]⟩
  | polled err => exact ⟨.afterPoll ⟨0, 0, 0⟩, rfl, by simp [step, hthread]⟩
  | leaving => exact ⟨.finish ⟨0, 0, 0⟩, rfl, by simp [step, hthread]⟩
  | returned => exact ⟨.join, rfl, by simp [step, hmain, hthread]⟩

end Joining

/-- `main` joins the thread on every way out, but only a signal or a failed re-watch raises the flag the thread
looks at. When neither has come, `main` waits as long as none comes and no poll fails; when one has, the two
threads together make at most five more moves, and cannot stop before `main` has returned. -/
theorem join_waits_for_flag {bufferSize : ℕ} {timeoutMs : ℤ} {acts : List SessionAct} {s : Session} {err : ℤ}
    (h : runs Session.step (.start bufferSize timeoutMs) acts = some s) (hmain : s.main = .cleaning err)
    {more : List SessionAct} {t : Session} (hmore : runs Session.step s more = some t) :
    (acts.any SessionAct.sets = false → s.thread.Loops → (∀ a ∈ more, a.Calm) → t.main = .cleaning err) ∧
    (acts.any SessionAct.sets = true → more.countP SessionAct.moves ≤ 5 ∧
      ((∀ a, a.moves = true → Session.step t a = none) → ∃ status, t.main = .returned status)) := by
  have hflag := runs_exiting h
  constructor
  · intro hsets hloops hcalm
    rw [hsets] at hflag
    exact waits_forever hmain hflag hloops hcalm hmore
  · intro hsets
    have hexiting : s.exiting = true := by rw [hflag, hsets, Bool.or_true]
    obtain ⟨hclosing, hleft⟩ := runs_closing (.inl ⟨err, hmain⟩) hexiting hmore
    constructor
    · have hthread : s.thread.left ≤ 4 := by cases s.thread <;> simp [LogPhase.left]
      have hm : s.main.left = 1 := by rw [hmain]; rfl
      omega
    · intro hstopped
      rcases hclosing with ⟨e, hwaiting⟩ | ⟨hreturned, -⟩
      · obtain ⟨a, ha, hsome⟩ := exists_move hwaiting
        rw [hstopped a ha] at hsome
        cases hsome
      · exact hreturned

theorem join_waits_for_flag_select :
    ∃ s, runs Session.step (.start 1000 5000) (opened ++ [.breakLoop, .report]) = some s ∧
      ∀ more t, runs Session.step s more = some t → (∀ a ∈ more, a.Calm) → t.main = .cleaning (-1) := by
  have hrun := runs_reached Session.step (.start 1000 5000) (opened ++ [.breakLoop, .report]) (by decide +kernel)
  refine ⟨_, hrun, fun more t hmore hcalm => ?_⟩
  exact (join_waits_for_flag hrun (by decide +kernel) hmore).1 (by decide +kernel) trivial hcalm

end PacketFilter.Engine
