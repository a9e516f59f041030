import PacketFilter.Library.Ledger
import PacketFilter.Library.Programs

/-! The descriptors that one FileEventSource obtains and closes. -/

namespace PacketFilter.Events

open Library Library.Programs

inductive FdCall where
  | inotifyInit1
  | inotifyAddWatch (fd : ℤ)
  | eventfd
  | inotifyRmWatch (fd wd : ℤ)
  | write (fd : ℤ)
  | close (fd : ℤ)

abbrev FdProg := Prog FdCall (fun _ => ℤ)

abbrev fdCall (op : FdCall) : FdProg ℤ := Prog.perform op

structure Source where
  isRunning : Bool
  callback : Bool
  inotifyFd : ℤ
  watchFd : ℤ
  eventFd : ℤ
  deriving DecidableEq

namespace Source

def new : Source := ⟨false, false, -1, -1, -1⟩

def setCallback (s : Source) (callback : Bool) : Source := { s with callback }

def start (s : Source) : FdProg (Bool × Source) := do
  if s.isRunning then return (true, s)
  else if ¬ s.callback then return (false, s)
  else
    let inotifyFd ← fdCall .inotifyInit1
    if inotifyFd < 0 then return (false, { s with inotifyFd })
    else
      let watchFd ← fdCall (.inotifyAddWatch inotifyFd)
      if watchFd < 0 then
        let _ ← fdCall (.close inotifyFd)
        return (false, { s with inotifyFd := -1, watchFd })
      else
        let eventFd ← fdCall .eventfd
        if eventFd < 0 then
          let _ ← fdCall (.inotifyRmWatch inotifyFd watchFd)
          let _ ← fdCall (.close inotifyFd)
          return (false, { s with inotifyFd, watchFd, eventFd })
        else return (true, { s with isRunning := true, inotifyFd, watchFd, eventFd })

def stop (s : Source) : FdProg Source := do
  if ¬ s.isRunning then return s
  else
    if 0 ≤ s.eventFd then
      let _ ← fdCall (.write s.eventFd)
      return { s with isRunning := false }
    else return { s with isRunning := false }

def destroy (s : Source) : FdProg Unit := do
  let s ← s.stop
  if 0 ≤ s.inotifyFd then
    if 0 ≤ s.watchFd then
      let _ ← fdCall (.inotifyRmWatch s.inotifyFd s.watchFd)
    let _ ← fdCall (.close s.inotifyFd)
  if 0 ≤ s.eventFd then
    let _ ← fdCall (.close s.eventFd)

end Source

/-- How the kernel gives out numbers, and the numbers that other threads hold at each call. -/
structure Allocation where
  pick : Finset ℤ → ℤ
  nonneg : ∀ taken, 0 ≤ pick taken
  fresh : ∀ taken, pick taken ∉ taken
  others : ℕ → Finset ℤ

structure Answers where
  inotifyInit1 : Bool
  inotifyAddWatch : Option ℕ
  eventfd : Bool
  deriving DecidableEq

structure Process where
  calls : ℕ
  ledger : Ledger ℤ
  unwatched : List (Option ℕ)
  deriving DecidableEq

namespace Process

def new : Process := ⟨0, .empty, []⟩

def free (p : Process) (k : Allocation) : ℤ := k.pick ((p.ledger.table.map Prod.fst).toFinset ∪ k.others p.calls)

def allocate (p : Process) (k : Allocation) (granted : Bool) : ℤ × Process :=
  if granted then (p.free k, { p with calls := p.calls + 1, ledger := p.ledger.acquire (p.free k) })
  else (-1, { p with calls := p.calls + 1 })

end Process

/-- `close` gives the number back whatever it returns; on a number that is not open it does nothing. -/
def FdCall.exec (k : Allocation) (a : Answers) (op : FdCall) (p : Process) : ℤ × Process :=
  match op with
  | .inotifyInit1 => p.allocate k a.inotifyInit1
  | .eventfd => p.allocate k a.eventfd
  | .inotifyAddWatch _ => ((a.inotifyAddWatch.map Int.ofNat).getD (-1), { p with calls := p.calls + 1 })
  | .inotifyRmWatch fd _ =>
      (0, { p with calls := p.calls + 1, unwatched := p.unwatched ++ [p.ledger.serial? fd] })
  | .write _ => (8, { p with calls := p.calls + 1 })
  | .close fd => (0, { p with calls := p.calls + 1, ledger := p.ledger.release fd })

inductive Call where
  | setCallback (callback : Bool)
  | start (answers : Answers)
  | stop
  deriving DecidableEq

def Call.perform (k : Allocation) (c : Source × Process) : Call → Source × Process
  | .setCallback callback => (c.1.setCallback callback, c.2)
  | .start answers =>
      ((c.1.start.run (FdCall.exec k answers) c.2).1.2, (c.1.start.run (FdCall.exec k answers) c.2).2)
  | .stop => c.1.stop.run (FdCall.exec k ⟨false, none, false⟩) c.2

def lifetime (k : Allocation) (calls : List Call) : Process :=
  let c := calls.foldl (Call.perform k) (.new, .new)
  (c.1.destroy.run (FdCall.exec k ⟨false, none, false⟩) c.2).2

/-- Whatever was closed or unwatched was owned at that moment, and all that was obtained was closed once. -/
structure Process.Sound (p : Process) : Prop where
  closed : none ∉ p.ledger.released
  unwatched : none ∉ p.unwatched
  once : ∀ n < p.ledger.obtained, p.ledger.released.count (some n) = 1

inductive Outcome where
  | noInotify
  | noWatch
  | noEventfd
  | started
  deriving DecidableEq

def Answers.outcome (a : Answers) : Outcome :=
  if ¬ a.inotifyInit1 then .noInotify
  else if a.inotifyAddWatch = none then .noWatch
  else if ¬ a.eventfd then .noEventfd
  else .started

def attempts : (isRunning callback : Bool) → List Call → List Outcome
  | _, _, [] => []
  | isRunning, _, .setCallback callback :: calls => attempts isRunning callback calls
  | _, callback, .stop :: calls => attempts false callback calls
  | isRunning, callback, .start a :: calls =>
      if ¬ isRunning ∧ callback then a.outcome :: attempts (a.outcome = .started) callback calls
      else attempts isRunning callback calls

/-- Nothing is tried after a success, and the last try did not fail for want of an eventfd. -/
def Tidy (outcomes : List Outcome) : Prop :=
  (∀ o ∈ outcomes.dropLast, o ≠ .started) ∧ outcomes.getLast? ≠ some .noEventfd

instance (outcomes : List Outcome) : Decidable (Tidy outcomes) := inferInstanceAs (Decidable (_ ∧ _))

inductive Standing where
  | clear
  | stale
  | held
  | leaked
  deriving DecidableEq

def Standing.next : Standing → Outcome → Standing
  | .held, _ | .leaked, _ => .leaked
  | _, .noInotify | _, .noWatch => .clear
  | _, .noEventfd => .stale
  | _, .started => .held

lemma next_stale (o : Outcome) : Standing.next .stale o = Standing.next .clear o := by
  cases o <;> rfl

def Standing.IsTidy (t : Standing) : Prop := t = .clear ∨ t = .held

lemma foldl_next_leaked (outcomes : List Outcome) : outcomes.foldl Standing.next .leaked = .leaked := by
  induction outcomes with
  | nil => rfl
  | cons o outcomes ih => exact ih

lemma tidy_cons_cons (o o' : Outcome) (outcomes : List Outcome) :
    Tidy (o :: o' :: outcomes) ↔ o ≠ .started ∧ Tidy (o' :: outcomes) := by
  simp [Tidy, and_assoc]

lemma isTidy_foldl_cons (o : Outcome) (outcomes : List Outcome) :
    ((o :: outcomes).foldl Standing.next .clear).IsTidy ↔ Tidy (o :: outcomes) := by
  induction outcomes generalizing o with
  | nil => cases o <;> simp [Standing.IsTidy, Standing.next, Tidy]
  | cons o' outcomes ih =>
    rw [tidy_cons_cons, ← ih]
    have hnext : o ≠ .started → Standing.next (Standing.next .clear o) o' = Standing.next .clear o' := by
      intro ho
      cases o with
      | started => exact absurd rfl ho
      | _ => cases o' <;> rfl
    by_cases ho : o = .started
    · subst ho
      simp [Standing.next, foldl_next_leaked, Standing.IsTidy]
    · simp [hnext ho, ho]

lemma isTidy_foldl_iff (outcomes : List Outcome) :
    (outcomes.foldl Standing.next .clear).IsTidy ↔ Tidy outcomes := by
  cases outcomes with
  | nil => simp [Standing.IsTidy, Tidy]
  | cons o outcomes => exact isTidy_foldl_cons o outcomes

section Attempts

variable {k : Allocation} {a : Answers} {s : Source} {p : Process}

lemma free_ne {d : ℤ × ℕ} (hd : d ∈ p.ledger.table) : d.1 ≠ p.free k := by
  intro he
  apply k.fresh ((p.ledger.table.map Prod.fst).toFinset ∪ k.others p.calls)
  have hm : d.1 ∈ p.ledger.table.map Prod.fst := List.mem_map_of_mem hd
  rw [he] at hm
  exact Finset.mem_union_left _ (List.mem_toFinset.mpr hm)

lemma not_free_neg (p : Process) (k : Allocation) : ¬ p.free k < 0 := not_lt.mpr (k.nonneg _)

lemma run_start_idle (h : ¬ (s.isRunning = false ∧ s.callback = true)) :
    (s.start.run (FdCall.exec k a) p).1.2 = s ∧ (s.start.run (FdCall.exec k a) p).2 = p := by
  by_cases hr : s.isRunning
  · simp [Source.start, hr]
  · have hc : s.callback = false := by simpa [hr] using h
    simp [Source.start, hr, hc]

lemma run_start_noInotify (hr : s.isRunning = false) (hc : s.callback = true) (w : Option ℕ) (e : Bool) :
    s.start.run (FdCall.exec k ⟨false, w, e⟩) p =
      ((false, { s with inotifyFd := -1 }), { p with calls := p.calls + 1 }) := by
  simp [Source.start, hr, hc, fdCall, FdCall.exec, Process.allocate]

lemma run_start_noWatch (hr : s.isRunning = false) (hc : s.callback = true) (e : Bool) :
    s.start.run (FdCall.exec k ⟨true, none, e⟩) p =
      ((false, { s with inotifyFd := -1, watchFd := -1 }),
        { p with calls := p.calls + 3, ledger := (p.ledger.acquire (p.free k)).release (p.free k) }) := by
  simp [Source.start, hr, hc, fdCall, FdCall.exec, Process.allocate, not_free_neg]

lemma run_start_noEventfd (hr : s.isRunning = false) (hc : s.callback = true) (wd : ℕ) :
    s.start.run (FdCall.exec k ⟨true, some wd, false⟩) p =
      ((false, { s with inotifyFd := p.free k, watchFd := wd, eventFd := -1 }),
        { calls := p.calls + 5
          ledger := (p.ledger.acquire (p.free k)).release (p.free k)
          unwatched := p.unwatched ++ [some p.ledger.obtained] }) := by
  have hwd : ¬ (wd : ℤ) < 0 := by omega
  simp [Source.start, hr, hc, fdCall, FdCall.exec, Process.allocate, not_free_neg, hwd, Ledger.serial?_acquire]

lemma run_start_started (hr : s.isRunning = false) (hc : s.callback = true) (wd : ℕ) :
    ∃ fd, 0 ≤ fd ∧ fd ≠ p.free k ∧ (∀ d ∈ p.ledger.table, d.1 ≠ fd) ∧
      s.start.run (FdCall.exec k ⟨true, some wd, true⟩) p =
        ((true, { s with isRunning := true, inotifyFd := p.free k, watchFd := wd, eventFd := fd }),
          { p with calls := p.calls + 3, ledger := (p.ledger.acquire (p.free k)).acquire fd }) := by
  have hwd : ¬ (wd : ℤ) < 0 := by omega
  let q : Process := { p with calls := p.calls + 2, ledger := p.ledger.acquire (p.free k) }
  have hne : ∀ d ∈ q.ledger.table, d.1 ≠ q.free k := fun d hd => free_ne hd
  refine ⟨q.free k, k.nonneg _, ?_, ?_, ?_⟩
  · exact (hne (p.free k, p.ledger.obtained) List.mem_cons_self).symm
  · exact fun d hd => hne d (List.mem_cons_of_mem _ hd)
  · simp [Source.start, hr, hc, fdCall, FdCall.exec, Process.allocate, not_free_neg, hwd, q]

end Attempts

structure Process.Owned (p : Process) : Prop where
  closed : none ∉ p.ledger.released
  unwatched : none ∉ p.unwatched

lemma Process.Owned.reopened {p : Process} (h : p.Owned) (fd : ℤ) :
    none ∉ ((p.ledger.acquire fd).release fd).released := by
  have hreleased : ((p.ledger.acquire fd).release fd).released = p.ledger.released ++
      [some p.ledger.obtained] := by
    rw [← Ledger.serial?_acquire p.ledger fd]
    rfl
  rw [hreleased]
  simp [h.closed]

def Stands (s : Source) (p : Process) : Standing → Prop
  | .clear => p.Owned ∧ p.ledger.table = [] ∧ s.isRunning = false ∧ s.inotifyFd < 0 ∧ s.eventFd < 0
  | .stale => p.Owned ∧ p.ledger.table = [] ∧ s.isRunning = false ∧ 0 ≤ s.inotifyFd ∧ s.eventFd < 0
  | .held => p.Owned ∧ 0 ≤ s.inotifyFd ∧ 0 ≤ s.eventFd ∧ s.eventFd ≠ s.inotifyFd ∧
      ∃ m n, p.ledger.table = [(s.eventFd, m), (s.inotifyFd, n)]
  | .leaked => ∃ d ∈ p.ledger.table, 0 ≤ d.1 ∧ d.1 ≠ s.inotifyFd ∧ d.1 ≠ s.eventFd

lemma stands_setCallback {s : Source} {p : Process} {t : Standing} (h : Stands s p t) (callback : Bool) :
    Stands (s.setCallback callback) p t := by
  cases t <;> exact h

lemma run_stop (k : Allocation) (a : Answers) (s : Source) (p : Process) :
    ∃ calls, s.stop.run (FdCall.exec k a) p = ({ s with isRunning := false }, { p with calls }) := by
  by_cases hr : s.isRunning
  · by_cases he : 0 ≤ s.eventFd
    · exact ⟨p.calls + 1, by simp [Source.stop, hr, he, fdCall, FdCall.exec]⟩
    · exact ⟨p.calls, by simp [Source.stop, hr, he]⟩
  · obtain ⟨isRunning, callback, inotifyFd, watchFd, eventFd⟩ := s
    obtain rfl : isRunning = false := by simpa using hr
    exact ⟨p.calls, rfl⟩

lemma stands_stop {k : Allocation} {a : Answers} {s : Source} {p : Process} {t : Standing} (h : Stands s p t) :
    Stands (s.stop.run (FdCall.exec k a) p).1 (s.stop.run (FdCall.exec k a) p).2 t := by
  obtain ⟨calls, hrun⟩ := run_stop k a s p
  rw [hrun]
  cases t with
  | clear => exact ⟨⟨h.1.closed, h.1.unwatched⟩, h.2.1, rfl, h.2.2.2⟩
  | stale => exact ⟨⟨h.1.closed, h.1.unwatched⟩, h.2.1, rfl, h.2.2.2⟩
  | held => exact ⟨⟨h.1.closed, h.1.unwatched⟩, h.2⟩
  | leaked => exact h

section Attempt

variable {k : Allocation} {s : Source} {p : Process}

lemma stands_attempt_empty (hr : s.isRunning = false) (hc : s.callback = true) (ho : p.Owned)
    (ht : p.ledger.table = []) (he : s.eventFd < 0) (a : Answers) :
    Stands (s.start.run (FdCall.exec k a) p).1.2 (s.start.run (FdCall.exec k a) p).2
      (Standing.next .clear a.outcome) := by
  obtain ⟨granted, watch, event⟩ := a
  cases granted with
  | false =>
    rw [run_start_noInotify hr hc]
    exact ⟨⟨ho.closed, ho.unwatched⟩, ht, hr, by simp, he⟩
  | true =>
    cases watch with
    | none =>
      rw [run_start_noWatch hr hc]
      exact ⟨⟨ho.reopened _, ho.unwatched⟩, (Ledger.table_release_acquire _ _).trans ht, hr, by simp, he⟩
    | some wd =>
      cases event with
      | false =>
        rw [run_start_noEventfd hr hc]
        have hu : none ∉ p.unwatched ++ [some p.ledger.obtained] := by simp [ho.unwatched]
        exact ⟨⟨ho.reopened _, hu⟩, (Ledger.table_release_acquire _ _).trans ht, hr, k.nonneg _, by simp⟩
      | true =>
        obtain ⟨fd, hfd, hne, -, hrun⟩ := run_start_started (k := k) (p := p) hr hc wd
        rw [hrun]
        exact ⟨⟨ho.closed, ho.unwatched⟩, k.nonneg _, hfd, hne, p.ledger.obtained + 1, p.ledger.obtained,
          by simp [Ledger.acquire, ht]⟩

lemma leaked_attempt (hr : s.isRunning = false) (hc : s.callback = true) {d : ℤ × ℕ} (hd : d ∈ p.ledger.table)
    (hpos : 0 ≤ d.1) (hne : d.1 ≠ s.eventFd) (a : Answers) :
    Stands (s.start.run (FdCall.exec k a) p).1.2 (s.start.run (FdCall.exec k a) p).2 .leaked := by
  obtain ⟨granted, watch, event⟩ := a
  have hfree : d.1 ≠ p.free k := free_ne hd
  have hnone : d.1 ≠ -1 := by omega
  cases granted with
  | false =>
    rw [run_start_noInotify hr hc]
    exact ⟨d, hd, hpos, hnone, hne⟩
  | true =>
    cases watch with
    | none =>
      rw [run_start_noWatch hr hc]
      exact ⟨d, by rwa [Ledger.table_release_acquire], hpos, hnone, hne⟩
    | some wd =>
      cases event with
      | false =>
        rw [run_start_noEventfd hr hc]
        exact ⟨d, by rwa [Ledger.table_release_acquire], hpos, hfree, hnone⟩
      | true =>
        obtain ⟨fd, -, -, hfd, hrun⟩ := run_start_started (k := k) (p := p) hr hc wd
        rw [hrun]
        exact ⟨d, by simp [Ledger.acquire, hd], hpos, hfree, hfd d hd⟩

lemma flags_attempt (hr : s.isRunning = false) (hc : s.callback = true) (a : Answers) :
    (s.start.run (FdCall.exec k a) p).1.2.isRunning = decide (a.outcome = .started) ∧
      (s.start.run (FdCall.exec k a) p).1.2.callback = s.callback := by
  obtain ⟨granted, watch, event⟩ := a
  cases granted with
  | false =>
    rw [run_start_noInotify hr hc]
    exact ⟨hr, rfl⟩
  | true =>
    cases watch with
    | none =>
      rw [run_start_noWatch hr hc]
      exact ⟨hr, rfl⟩
    | some wd =>
      cases event with
      | false =>
        rw [run_start_noEventfd hr hc]
        exact ⟨hr, rfl⟩
      | true =>
        obtain ⟨fd, -, -, -, hrun⟩ := run_start_started (k := k) (p := p) hr hc wd
        rw [hrun]
        exact ⟨rfl, rfl⟩

lemma stands_attempt (hr : s.isRunning = false) (hc : s.callback = true) {t : Standing} (h : Stands s p t)
    (a : Answers) :
    Stands (s.start.run (FdCall.exec k a) p).1.2 (s.start.run (FdCall.exec k a) p).2 (t.next a.outcome) := by
  cases t with
  | clear =>
    obtain ⟨ho, ht, -, -, he⟩ := h
    exact stands_attempt_empty hr hc ho ht he a
  | stale =>
    obtain ⟨ho, ht, -, -, he⟩ := h
    rw [next_stale]
    exact stands_attempt_empty hr hc ho ht he a
  | held =>
    obtain ⟨-, hi, -, hne, m, n, ht⟩ := h
    exact leaked_attempt hr hc (d := (s.inotifyFd, n)) (by simp [ht]) hi hne.symm a
  | leaked =>
    obtain ⟨d, hd, hpos, -, hne⟩ := h
    exact leaked_attempt hr hc hd hpos hne a

end Attempt

lemma stands_run (k : Allocation) (calls : List Call) {s : Source} {p : Process} {t : Standing}
    (h : Stands s p t) :
    Stands (calls.foldl (Call.perform k) (s, p)).1 (calls.foldl (Call.perform k) (s, p)).2
      ((attempts s.isRunning s.callback calls).foldl Standing.next t) := by
  induction calls generalizing s p t with
  | nil => exact h
  | cons call calls ih =>
    cases call with
    | setCallback callback => exact ih (stands_setCallback h callback)
    | stop =>
      obtain ⟨n, hrun⟩ := run_stop k ⟨false, none, false⟩ s p
      have hstop := stands_stop (k := k) (a := ⟨false, none, false⟩) h
      have hperform : Call.perform k (s, p) .stop = ({ s with isRunning := false }, { p with calls := n }) := hrun
      rw [hrun] at hstop
      rw [List.foldl_cons, hperform]
      exact ih hstop
    | start a =>
      by_cases hs : s.isRunning = false ∧ s.callback = true
      · obtain ⟨hrunning, hcallback⟩ := flags_attempt (k := k) (p := p) hs.1 hs.2 a
        have hrest := ih (stands_attempt (k := k) hs.1 hs.2 h a)
        rw [hrunning, hcallback] at hrest
        rw [attempts, if_pos (by simpa using hs)]
        exact hrest
      · obtain ⟨hs1, hs2⟩ := run_start_idle (k := k) (a := a) (p := p) hs
        have hperform : Call.perform k (s, p) (.start a) = (s, p) := Prod.ext hs1 hs2
        rw [List.foldl_cons, hperform, attempts, if_neg (by simpa using hs)]
        exact ih h

lemma run_destroy (k : Allocation) (a : Answers) (s : Source) (p : Process) :
    (s.destroy.run (FdCall.exec k a) p).2.ledger =
        (let l := if 0 ≤ s.inotifyFd then p.ledger.release s.inotifyFd else p.ledger
        if 0 ≤ s.eventFd then l.release s.eventFd else l) ∧
      (s.destroy.run (FdCall.exec k a) p).2.unwatched =
        if 0 ≤ s.inotifyFd ∧ 0 ≤ s.watchFd then p.unwatched ++ [p.ledger.serial? s.inotifyFd]
          else p.unwatched := by
  obtain ⟨n, hrun⟩ := run_stop k a s p
  rw [Source.destroy, Prog.run_bind, hrun]
  by_cases hi : 0 ≤ s.inotifyFd <;> by_cases hw : 0 ≤ s.watchFd <;> by_cases he : 0 ≤ s.eventFd <;>
    simp [hi, hw, he, fdCall, FdCall.exec]

lemma balanced_exec (k : Allocation) (a : Answers) (op : FdCall) (p : Process) (h : p.ledger.Balanced) :
    (op.exec k a p).2.ledger.Balanced := by
  have hallocate : ∀ granted, (p.allocate k granted).2.ledger.Balanced := by
    intro granted
    cases granted with
    | true => exact h.acquire _
    | false => exact h
  cases op with
  | inotifyInit1 => exact hallocate _
  | eventfd => exact hallocate _
  | close fd => exact h.release fd
  | _ => exact h

lemma balanced_perform (k : Allocation) (c : Source × Process) (call : Call) (h : c.2.ledger.Balanced) :
    (call.perform k c).2.ledger.Balanced := by
  cases call with
  | setCallback callback => exact h
  | start a => exact Prog.run_invariant _ (balanced_exec k a) _ h
  | stop => exact Prog.run_invariant _ (balanced_exec k _) _ h

lemma balanced_lifetime (k : Allocation) (calls : List Call) : (lifetime k calls).ledger.Balanced := by
  have hcalls : (calls.foldl (Call.perform k) (.new, .new)).2.ledger.Balanced :=
    List.foldlRecOn (motive := fun c => c.2.ledger.Balanced) calls _ Ledger.balanced_empty
      (fun c h call _ => balanced_perform k c call h)
  exact Prog.run_invariant _ (balanced_exec k _) _ hcalls

lemma sound_iff {p : Process} (h : p.ledger.Balanced) : p.Sound ↔ p.Owned ∧ p.ledger.table = [] := by
  rw [← h.released_once_iff]
  constructor
  · rintro ⟨hc, hu, ho⟩
    exact ⟨⟨hc, hu⟩, ho⟩
  · rintro ⟨⟨hc, hu⟩, ho⟩
    exact ⟨hc, hu, ho⟩

section Destroy

variable {k : Allocation} {a : Answers} {s : Source} {p : Process}

lemma destroy_clear (h : Stands s p .clear) :
    (s.destroy.run (FdCall.exec k a) p).2.Owned ∧ (s.destroy.run (FdCall.exec k a) p).2.ledger.table = [] := by
  obtain ⟨ho, ht, -, hi, he⟩ := h
  obtain ⟨hl, hu⟩ := run_destroy k a s p
  rw [if_neg hi.not_ge, if_neg he.not_ge] at hl
  rw [if_neg (by simp [hi.not_ge])] at hu
  refine ⟨⟨?_, ?_⟩, ?_⟩
  · rw [hl]
    exact ho.closed
  · rw [hu]
    exact ho.unwatched
  · rw [hl]
    exact ht

lemma destroy_stale (h : Stands s p .stale) : ¬ (s.destroy.run (FdCall.exec k a) p).2.Owned := by
  obtain ⟨-, ht, -, hi, he⟩ := h
  obtain ⟨hl, -⟩ := run_destroy k a s p
  rw [if_pos hi, if_neg he.not_ge] at hl
  rintro ⟨hc, -⟩
  rw [hl] at hc
  simp [Ledger.release, Ledger.serial?, ht] at hc

lemma destroy_held (h : Stands s p .held) :
    (s.destroy.run (FdCall.exec k a) p).2.Owned ∧ (s.destroy.run (FdCall.exec k a) p).2.ledger.table = [] := by
  obtain ⟨ho, hi, he, hne, m, n, ht⟩ := h
  obtain ⟨hl, hu⟩ := run_destroy k a s p
  rw [if_pos hi, if_pos he] at hl
  refine ⟨⟨?_, ?_⟩, ?_⟩
  · rw [hl]
    simp [Ledger.release, Ledger.serial?, ht, hne, ho.closed]
  · rw [hu]
    split_ifs
    · simp [Ledger.serial?, ht, hne, ho.unwatched]
    · exact ho.unwatched
  · rw [hl]
    simp [Ledger.release, ht, hne]

lemma destroy_leaked (h : Stands s p .leaked) : (s.destroy.run (FdCall.exec k a) p).2.ledger.table ≠ [] := by
  obtain ⟨d, hd, -, hi, he⟩ := h
  obtain ⟨hl, -⟩ := run_destroy k a s p
  rw [hl]
  apply List.ne_nil_of_mem (a := d)
  split_ifs
  · exact Ledger.mem_release (Ledger.mem_release hd hi) he
  · exact Ledger.mem_release hd hi
  · exact Ledger.mem_release hd he
  · exact hd

lemma destroy_iff {t : Standing} (h : Stands s p t) :
    (s.destroy.run (FdCall.exec k a) p).2.Owned ∧ (s.destroy.run (FdCall.exec k a) p).2.ledger.table = [] ↔
      t.IsTidy := by
  cases t with
  | clear => exact iff_of_true (destroy_clear h) (.inl rfl)
  | stale => exact iff_of_false (fun hs => destroy_stale h hs.1) (by simp [Standing.IsTidy])
  | held => exact iff_of_true (destroy_held h) (.inr rfl)
  | leaked => exact iff_of_false (fun hs => destroy_leaked h hs.2) (by simp [Standing.IsTidy])

end Destroy

theorem descriptors_sound_iff (k : Allocation) (calls : List Call) :
    (lifetime k calls).Sound ↔ Tidy (attempts false false calls) := by
  have hnew : Stands .new .new .clear := ⟨⟨by simp [Process.new, Ledger.empty], by simp [Process.new]⟩, rfl, rfl,
    by decide, by decide⟩
  have hrun := stands_run k calls hnew
  rw [sound_iff (balanced_lifetime k calls), lifetime, destroy_iff hrun, isTidy_foldl_iff]
  rfl

def lowest (taken : Finset ℤ) : ℕ := ((List.range (taken.card + 1)).find? (fun n : ℕ => (n : ℤ) ∉ taken)).getD 0

lemma lowest_notMem (taken : Finset ℤ) : (lowest taken : ℤ) ∉ taken := by
  cases hf : (List.range (taken.card + 1)).find? (fun n : ℕ => (n : ℤ) ∉ taken) with
  | some n =>
    rw [lowest, hf]
    simpa using List.find?_some hf
  | none =>
    have hall : ∀ n < taken.card + 1, (n : ℤ) ∈ taken := by simpa using List.find?_eq_none.mp hf
    have hsub : (Finset.range (taken.card + 1)).image (fun n : ℕ => (n : ℤ)) ⊆ taken := by
      intro z hz
      obtain ⟨n, hn, rfl⟩ := Finset.mem_image.mp hz
      exact hall n (Finset.mem_range.mp hn)
    have hcard := Finset.card_le_card hsub
    rw [Finset.card_image_of_injective _ Nat.cast_injective, Finset.card_range] at hcard
    omega

def reuse : Allocation where
  pick taken := lowest taken
  nonneg _ := Int.natCast_nonneg _
  fresh := lowest_notMem
  others n := if n < 5 then {0, 1, 2} else {0, 1, 2, 3}

theorem stale_descriptor_closed :
    let calls : List Call := [.setCallback true, .start ⟨true, some 1, false⟩]
    (calls.foldl (Call.perform reuse) (.new, .new)).1.inotifyFd = 3 ∧ 3 ∈ reuse.others 6 ∧
    (lifetime reuse calls).ledger.released = [some 0, none] ∧ ¬ (lifetime reuse calls).Sound := by
  intro calls
  have hreleased : (lifetime reuse calls).ledger.released = [some 0, none] := by decide +kernel
  refine ⟨by decide +kernel, by decide, hreleased, ?_⟩
  rintro ⟨hclosed, -, -⟩
  rw [hreleased] at hclosed
  simp at hclosed

end PacketFilter.Events
