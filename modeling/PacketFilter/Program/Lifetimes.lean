import PacketFilter.Library.Machines

/-! main.cpp: the locals of `main` with their destructors, the two threads it starts, and the maps these use. -/

namespace PacketFilter.Program

open Library.Machines

inductive Local where
  | configManager
  | skel (owned : Bool)
  | link
  | accessWriter
  deriving DecidableEq

/-- The statements of `main` in their order. A call that stops a thread is two of them: it blocks in the join. -/
inductive Stmt where
  | getInterface
  | loadEbpfProgram
  | attachEbpfInterface
  | initMapFdManager
  | loadAllConfigs
  | startEventListener
  | initThreadPool
  | makeAccessWriter
  | startLogListener
  | mainLoop
  | stopLogListener
  | joinWorker
  | stopEventListener
  | joinListener
  | shutdownSpdlog
  deriving DecidableEq

inductive Mode where
  | running (stmt : Stmt)
  | unwinding (status : ℤ)
  | leaving (status : ℤ)
  | exited (status : ℤ)
  deriving DecidableEq

def Stmt.next : Stmt → Mode
  | .getInterface => .running .loadEbpfProgram
  | .loadEbpfProgram => .running .attachEbpfInterface
  | .attachEbpfInterface => .running .initMapFdManager
  | .initMapFdManager => .running .loadAllConfigs
  | .loadAllConfigs => .running .startEventListener
  | .startEventListener => .running .initThreadPool
  | .initThreadPool => .running .makeAccessWriter
  | .makeAccessWriter => .running .startLogListener
  | .startLogListener => .running .mainLoop
  | .mainLoop => .running .stopLogListener
  | .stopLogListener => .running .joinWorker
  | .joinWorker => .running .stopEventListener
  | .stopEventListener => .running .joinListener
  | .joinListener => .running .shutdownSpdlog
  | .shutdownSpdlog => .unwinding 0

inductive Thread where
  | absent
  | alive
  | ended
  deriving DecidableEq

inductive Outcome where
  | done
  | fails
  | throws
  deriving DecidableEq

/-- `locals` has the last one constructed first. `registered` says that MapFdManager's instance holds the skeleton,
and `fault` that maps were used that are not open, or a thread assigned to that could still be joined. -/
structure Life where
  mode : Mode
  locals : List Local
  running : Bool
  loaded : Bool
  registered : Bool
  attached : Bool
  listener : Thread
  listenerStop : Bool
  worker : Thread
  workerStop : Bool
  fault : Bool
  deriving DecidableEq

inductive LifeAct where
  | exec (outcome : Outcome)
  | unwind
  | exit
  | signal
  | packet
  | listenerUses
  | listenerEnds
  | workerUses
  | workerEnds
  deriving DecidableEq

namespace Life

def start : Life :=
  ⟨.running .getInterface, [.configManager], true, false, false, false, .absent, false, .absent, false, false⟩

def uses (s : Life) : Life := { s with fault := s.fault || !s.loaded }

def failed (s : Life) : Life := { s with mode := .unwinding 1 }

def exec (s : Life) (stmt : Stmt) (outcome : Outcome) : Option Life :=
  let s' := { s with mode := stmt.next }
  match stmt, outcome with
  | .getInterface, .done => some s'
  | .getInterface, .throws => some s.failed
  | .loadEbpfProgram, .done => some { s' with loaded := true, locals := .skel true :: s.locals }
  | .loadEbpfProgram, .fails => some s.failed
  | .attachEbpfInterface, .done => some { s' with attached := true, locals := .link :: s.locals }
  | .attachEbpfInterface, .fails => some s.failed
  | .initMapFdManager, .done =>
      some { s' with
        registered := true
        locals := s.locals.map (fun l => if l = .skel true then .skel false else l) }
  | .loadAllConfigs, .done => some s'.uses
  | .loadAllConfigs, .throws => some s.uses.failed
  | .startEventListener, .done =>
      some { s' with listener := .alive, listenerStop := false, fault := s.fault || s.listener ≠ .absent }
  | .startEventListener, .fails => some s'
  | .startEventListener, .throws => some s.failed
  | .initThreadPool, .done => some s'
  | .initThreadPool, .throws => some s.failed
  | .makeAccessWriter, .done => some { s' with locals := .accessWriter :: s.locals }
  | .makeAccessWriter, .throws => some s.failed
  | .startLogListener, .done => some { s' with worker := .alive, fault := s.fault || s.worker ≠ .absent }
  -- What the call throws is caught at once, and `main` goes on without the log.
  | .startLogListener, .fails | .startLogListener, .throws => some s'
  | .mainLoop, .done => if s.running then none else some s'
  | .stopLogListener, .done => some { s' with workerStop := true }
  | .joinWorker, .done => if s.worker = .alive then none else some { s' with worker := .absent }
  | .stopEventListener, .done => some { s' with listenerStop := true }
  | .joinListener, .done => if s.listener = .alive then none else some { s' with listener := .absent }
  | .shutdownSpdlog, .done => some s'
  | _, _ => none

def destroy (s : Life) (l : Local) (rest : List Local) : Option Life :=
  match l with
  | .accessWriter =>
      if s.workerStop then
        if s.worker = .alive then none else some { s with worker := .absent, locals := rest }
      else some { s with workerStop := true }
  | .link => some { s with attached := false, locals := rest }
  | .skel owned => some { s with loaded := if owned then false else s.loaded, locals := rest }
  | .configManager =>
      if s.listenerStop then
        if s.listener = .alive then none else some { s with listener := .absent, locals := rest }
      else some { s with listenerStop := true }

def step (s : Life) : LifeAct → Option Life
  | .exec outcome =>
      match s.mode with
      | .running stmt => s.exec stmt outcome
      | _ => none
  | .unwind =>
      match s.mode, s.locals with
      | .unwinding _, l :: rest => s.destroy l rest
      | .unwinding status, [] => some { s with mode := .leaving status }
      | _, _ => none
  | .exit =>
      match s.mode with
      | .leaving status =>
          some { s with
            mode := .exited status
            loaded := if s.registered then false else s.loaded
            registered := false }
      | _ => none
  | .signal => some { s with running := false }
  | .packet => if s.attached then some s.uses else none
  | .listenerUses => if s.listener = .alive then some s.uses else none
  | .listenerEnds => if s.listener = .alive ∧ s.listenerStop then some { s with listener := .ended } else none
  | .workerUses => if s.worker = .alive then some s.uses else none
  -- The worker also ends when its poll fails.
  | .workerEnds => if s.worker = .alive then some { s with worker := .ended } else none

def Owns (s : Life) : Prop :=
  match s.locals with
  | [] => s.attached = false ∧ s.listener = .absent ∧ s.worker = .absent ∧ s.loaded = s.registered
  | [.configManager] =>
      s.attached = false ∧ s.worker = .absent ∧ s.loaded = s.registered ∧
        (s.listener ≠ .absent → s.registered = true)
  | [.skel owned, .configManager] =>
      s.attached = false ∧ s.worker = .absent ∧ s.loaded = true ∧ s.registered = !owned ∧
        (s.listener ≠ .absent → s.registered = true)
  | [.link, .skel owned, .configManager] =>
      s.worker = .absent ∧ s.loaded = true ∧ s.registered = !owned ∧ (s.listener ≠ .absent → s.registered = true)
  | [.accessWriter, .link, .skel false, .configManager] => s.loaded = true ∧ s.registered = true
  | _ => False

end Life

namespace Stmt

def locals : Stmt → List Local
  | .getInterface | .loadEbpfProgram => [.configManager]
  | .attachEbpfInterface => [.skel true, .configManager]
  | .initMapFdManager => [.link, .skel true, .configManager]
  | .loadAllConfigs | .startEventListener | .initThreadPool | .makeAccessWriter =>
      [.link, .skel false, .configManager]
  | _ => [.accessWriter, .link, .skel false, .configManager]

def beforeListener : Stmt → Bool
  | .getInterface | .loadEbpfProgram | .attachEbpfInterface | .initMapFdManager | .loadAllConfigs |
    .startEventListener => true
  | _ => false

def afterLoop : Stmt → Bool
  | .stopLogListener | .joinWorker | .stopEventListener | .joinListener | .shutdownSpdlog => true
  | _ => false

end Stmt

namespace Life

def Placed (s : Life) : Prop :=
  match s.mode with
  | .running stmt =>
      s.locals = stmt.locals ∧ s.registered = decide (.skel false ∈ stmt.locals) ∧
        (stmt.beforeListener → s.listener = .absent) ∧ (stmt = .startLogListener → s.worker = .absent) ∧
        (stmt.afterLoop → s.running = false) ∧ (stmt = .joinWorker → s.workerStop = true) ∧
        (stmt = .joinListener → s.listenerStop = true)
  | .unwinding status => status = 0 → s.running = false
  | .leaving status => s.locals = [] ∧ (status = 0 → s.running = false)
  | .exited status => s.locals = [] ∧ s.registered = false ∧ (status = 0 → s.running = false)

structure Sound (s : Life) : Prop where
  fault : s.fault = false
  owns : s.Owns
  placed : s.Placed

end Life

section Soundness

variable {s t : Life} {stmt : Stmt} {outcome : Outcome}

lemma start_sound : Life.start.Sound :=
  ⟨rfl, ⟨rfl, rfl, rfl, fun h => absurd rfl h⟩, ⟨rfl, rfl, fun _ => rfl, nofun, nofun, nofun, nofun⟩⟩

lemma Life.Sound.failed (h : s.Sound) : s.failed.Sound := ⟨h.fault, h.owns, nofun⟩

lemma Life.Sound.uses (h : s.Sound) (hloaded : s.loaded = true) : s.uses.Sound :=
  ⟨by simp [Life.uses, h.fault, hloaded], h.owns, h.placed⟩

lemma exec_sound (h : s.Sound) (hmode : s.mode = .running stmt) (hs : s.exec stmt outcome = some t) : t.Sound := by
  have hfailed := h.failed
  obtain ⟨mode, locals, running, loaded, registered, attached, listener, listenerStop, worker,
    workerStop, fault⟩ := s
  obtain ⟨hfault, howns, hplaced⟩ := h
  obtain rfl : mode = .running stmt := hmode
  obtain ⟨hlocals, hregistered, hlistener, hworker, hloop, -⟩ := hplaced
  obtain rfl : locals = stmt.locals := hlocals
  obtain rfl : fault = false := hfault
  obtain rfl : registered = decide (.skel false ∈ stmt.locals) := hregistered
  cases stmt with
  | getInterface =>
    cases outcome <;> cases hs
    · exact ⟨rfl, howns, rfl, rfl, hlistener, nofun, nofun, nofun, nofun⟩
    · exact hfailed
  | loadEbpfProgram =>
    cases outcome <;> cases hs
    · obtain ⟨hattached, hw, hloaded, hl⟩ := howns
      exact ⟨rfl, ⟨hattached, hw, rfl, rfl, hl⟩, rfl, rfl, hlistener, nofun, nofun, nofun, nofun⟩
    · exact hfailed
  | attachEbpfInterface =>
    cases outcome <;> cases hs
    · obtain ⟨hattached, hw, hloaded, hr, hl⟩ := howns
      exact ⟨rfl, ⟨hw, hloaded, rfl, hl⟩, rfl, rfl, hlistener, nofun, nofun, nofun, nofun⟩
    · exact hfailed
  | initMapFdManager =>
    cases outcome <;> cases hs
    obtain ⟨hw, hloaded, hr, hl⟩ := howns
    exact ⟨rfl, ⟨hw, hloaded, rfl, fun _ => rfl⟩, rfl, rfl, hlistener, nofun, nofun, nofun, nofun⟩
  | loadAllConfigs =>
    obtain ⟨hw, hloaded, hr, hl⟩ := howns
    obtain rfl : loaded = true := hloaded
    cases outcome <;> cases hs
    · exact ⟨rfl, ⟨hw, rfl, rfl, hl⟩, rfl, rfl, hlistener, nofun, nofun, nofun, nofun⟩
    · exact hfailed
  | startEventListener =>
    obtain ⟨hw, hloaded, hr, hl⟩ := howns
    obtain rfl : listener = .absent := hlistener rfl
    cases outcome <;> cases hs
    · exact ⟨rfl, ⟨hw, hloaded, rfl, fun _ => rfl⟩, rfl, rfl, nofun, nofun, nofun, nofun, nofun⟩
    · exact ⟨rfl, ⟨hw, hloaded, rfl, hl⟩, rfl, rfl, nofun, nofun, nofun, nofun, nofun⟩
    · exact hfailed
  | initThreadPool =>
    cases outcome <;> cases hs
    · exact ⟨rfl, howns, rfl, rfl, nofun, nofun, nofun, nofun, nofun⟩
    · exact hfailed
  | makeAccessWriter =>
    cases outcome <;> cases hs
    · obtain ⟨hw, hloaded, hr, hl⟩ := howns
      exact ⟨rfl, ⟨hloaded, rfl⟩, rfl, rfl, nofun, fun _ => hw, nofun, nofun, nofun⟩
    · exact hfailed
  | startLogListener =>
    obtain rfl : worker = .absent := hworker rfl
    cases outcome <;> cases hs <;> exact ⟨rfl, howns, rfl, rfl, nofun, nofun, nofun, nofun, nofun⟩
  | mainLoop =>
    cases outcome with
    | done =>
      simp only [Life.exec, Option.ite_none_left_eq_some, Option.some.injEq] at hs
      obtain ⟨hrunning, rfl⟩ := hs
      exact ⟨rfl, howns, rfl, rfl, nofun, nofun, fun _ => by simpa using hrunning, nofun, nofun⟩
    | _ => cases hs
  | stopLogListener =>
    cases outcome <;> cases hs
    exact ⟨rfl, howns, rfl, rfl, nofun, nofun, fun _ => hloop rfl, fun _ => rfl, nofun⟩
  | joinWorker =>
    cases outcome with
    | done =>
      simp only [Life.exec, Option.ite_none_left_eq_some, Option.some.injEq] at hs
      obtain ⟨-, rfl⟩ := hs
      exact ⟨rfl, howns, rfl, rfl, nofun, nofun, fun _ => hloop rfl, nofun, nofun⟩
    | _ => cases hs
  | stopEventListener =>
    cases outcome <;> cases hs
    exact ⟨rfl, howns, rfl, rfl, nofun, nofun, fun _ => hloop rfl, nofun, fun _ => rfl⟩
  | joinListener =>
    cases outcome with
    | done =>
      simp only [Life.exec, Option.ite_none_left_eq_some, Option.some.injEq] at hs
      obtain ⟨-, rfl⟩ := hs
      exact ⟨rfl, howns, rfl, rfl, nofun, nofun, fun _ => hloop rfl, nofun, nofun⟩
    | _ => cases hs
  | shutdownSpdlog =>
    cases outcome <;> cases hs
    exact ⟨rfl, howns, fun _ => hloop rfl⟩

lemma destroy_sound {status : ℤ} {l : Local} {rest : List Local} (h : s.Sound) (hmode : s.mode = .unwinding status)
    (hlocals : s.locals = l :: rest) (hs : s.destroy l rest = some t) : t.Sound := by
  obtain ⟨mode, locals, running, loaded, registered, attached, listener, listenerStop, worker,
    workerStop, fault⟩ := s
  obtain ⟨hfault, howns, hplaced⟩ := h
  obtain rfl : mode = .unwinding status := hmode
  simp only [Life.Owns] at howns
  -- each destructor finds the locals below it as they were when it was constructed
  split at howns
  · cases hlocals
  · obtain ⟨rfl, rfl⟩ := List.cons.inj hlocals
    obtain ⟨hattached, hworker, hloaded, hlistener⟩ := howns
    simp only [Life.destroy] at hs
    split_ifs at hs with hstop hjoin <;> cases hs
    · exact ⟨hfault, ⟨hattached, rfl, hworker, hloaded⟩, hplaced⟩
    · exact ⟨hfault, ⟨hattached, hworker, hloaded, hlistener⟩, hplaced⟩
  · next owned =>
    obtain ⟨rfl, rfl⟩ := List.cons.inj hlocals
    obtain ⟨hattached, hworker, hloaded, hregistered, hlistener⟩ := howns
    cases hs
    refine ⟨hfault, ⟨hattached, hworker, ?_, hlistener⟩, hplaced⟩
    cases owned
    · exact hloaded.trans hregistered.symm
    · exact hregistered.symm
  · obtain ⟨rfl, rfl⟩ := List.cons.inj hlocals
    obtain ⟨hworker, hloaded, hregistered, hlistener⟩ := howns
    cases hs
    exact ⟨hfault, ⟨rfl, hworker, hloaded, hregistered, hlistener⟩, hplaced⟩
  · obtain ⟨rfl, rfl⟩ := List.cons.inj hlocals
    obtain ⟨hloaded, hregistered⟩ := howns
    simp only [Life.destroy] at hs
    split_ifs at hs with hstop hjoin <;> cases hs
    · exact ⟨hfault, ⟨rfl, hloaded, hregistered, fun _ => hregistered⟩, hplaced⟩
    · exact ⟨hfault, ⟨hloaded, hregistered⟩, hplaced⟩
  · exact howns.elim

lemma Life.Owns.listenerEnded (h : s.Owns) (hne : s.listener ≠ .absent) : { s with listener := .ended }.Owns := by
  unfold Life.Owns at h
  split at h
  · exact absurd h.2.1 hne
  · next heq =>
    obtain ⟨hattached, hworker, hloaded, hlistener⟩ := h
    simp only [Life.Owns, heq]
    exact ⟨hattached, hworker, hloaded, fun _ => hlistener hne⟩
  · next heq =>
    obtain ⟨hattached, hworker, hloaded, hregistered, hlistener⟩ := h
    simp only [Life.Owns, heq]
    exact ⟨hattached, hworker, hloaded, hregistered, fun _ => hlistener hne⟩
  · next heq =>
    obtain ⟨hworker, hloaded, hregistered, hlistener⟩ := h
    simp only [Life.Owns, heq]
    exact ⟨hworker, hloaded, hregistered, fun _ => hlistener hne⟩
  · next heq =>
    simp only [Life.Owns, heq]
    exact h
  · exact h.elim

lemma Life.Owns.workerEnded (h : s.Owns) (hne : s.worker ≠ .absent) : { s with worker := .ended }.Owns := by
  unfold Life.Owns at h
  split at h
  · exact absurd h.2.2.1 hne
  · exact absurd h.2.1 hne
  · exact absurd h.2.1 hne
  · exact absurd h.1 hne
  · next heq =>
    simp only [Life.Owns, heq]
    exact h
  · exact h.elim

lemma Life.Placed.threads (h : s.Placed) {listener worker : Thread}
    (hl : listener ≠ .absent → s.listener ≠ .absent)
    (hw : worker ≠ .absent → s.worker ≠ .absent) : { s with listener := listener, worker := worker }.Placed := by
  unfold Life.Placed at h ⊢
  cases hmode : s.mode with
  | running stmt =>
    simp only [hmode] at h ⊢
    obtain ⟨hlocals, hregistered, hlistener, hworker, hrest⟩ := h
    exact ⟨hlocals, hregistered, fun hb => not_imp_not.mp hl (hlistener hb),
      fun hb => not_imp_not.mp hw (hworker hb), hrest⟩
  | unwinding status => simpa only [hmode] using h
  | leaving status => simpa only [hmode] using h
  | exited status => simpa only [hmode] using h

lemma Life.Owns.loaded (h : s.Owns) (huse : s.attached = true ∨ s.listener ≠ .absent ∨ s.worker ≠ .absent) :
    s.loaded = true := by
  unfold Life.Owns at h
  split at h
  · obtain ⟨ha, hl, hw, -⟩ := h
    simp [ha, hl, hw] at huse
  · obtain ⟨ha, hw, hloaded, hl⟩ := h
    have hne : s.listener ≠ .absent := by simpa [ha, hw] using huse
    exact hloaded.trans (hl hne)
  · exact h.2.2.1
  · exact h.2.1
  · exact h.1
  · exact h.elim

lemma step_sound {a : LifeAct} (h : s.Sound) (hs : s.step a = some t) : t.Sound := by
  cases a with
  | exec outcome =>
    simp only [Life.step] at hs
    split at hs
    · next stmt hmode => exact exec_sound h hmode hs
    · cases hs
  | unwind =>
    simp only [Life.step] at hs
    split at hs
    · next status l rest hmode hlocals => exact destroy_sound h hmode hlocals hs
    · next status hmode hlocals =>
      cases hs
      have hplaced := h.placed
      simp only [Life.Placed, hmode] at hplaced
      exact ⟨h.fault, h.owns, hlocals, hplaced⟩
    · cases hs
  | exit =>
    simp only [Life.step] at hs
    split at hs
    · next status hmode =>
      cases hs
      have hplaced := h.placed
      have howns := h.owns
      simp only [Life.Placed, hmode] at hplaced
      obtain ⟨hlocals, hstatus⟩ := hplaced
      simp only [Life.Owns, hlocals] at howns
      obtain ⟨hattached, hlistener, hworker, hloaded⟩ := howns
      refine ⟨h.fault, ?_, hlocals, rfl, hstatus⟩
      simp only [Life.Owns, hlocals]
      refine ⟨hattached, hlistener, hworker, ?_⟩
      cases hr : s.registered <;> simp [hr, hloaded]
    · cases hs
  | signal =>
    cases hs
    refine ⟨h.fault, h.owns, ?_⟩
    have hplaced := h.placed
    unfold Life.Placed at hplaced ⊢
    cases hmode : s.mode <;> simp_all
  | packet =>
    obtain ⟨hattached, rfl⟩ := by simpa [Life.step] using hs
    exact h.uses (h.owns.loaded (.inl hattached))
  | listenerUses =>
    obtain ⟨hl, rfl⟩ := by simpa [Life.step] using hs
    exact h.uses (h.owns.loaded (.inr (.inl (by simp [hl]))))
  | listenerEnds =>
    obtain ⟨⟨hl, -⟩, rfl⟩ := by simpa [Life.step] using hs
    have hne : s.listener ≠ .absent := by simp [hl]
    exact ⟨h.fault, h.owns.listenerEnded hne, h.placed.threads (fun _ => hne) id⟩
  | workerUses =>
    obtain ⟨hw, rfl⟩ := by simpa [Life.step] using hs
    exact h.uses (h.owns.loaded (.inr (.inr (by simp [hw]))))
  | workerEnds =>
    obtain ⟨hw, rfl⟩ := by simpa [Life.step] using hs
    have hne : s.worker ≠ .absent := by simp [hw]
    exact ⟨h.fault, h.owns.workerEnded hne, h.placed.threads id (fun _ => hne)⟩

end Soundness

end PacketFilter.Program
