import PacketFilter.Events.FileEventSource

/-! FileEventSource.cpp: the caller of `start` and `stop`, beside the listener and the writers of the file. -/

namespace PacketFilter.Events

open Library.Machines Library.Scanning

inductive Owner where
  | free
  | signalling
  | joining
  deriving DecidableEq

/-- A thread that has left `run` has ended, and is absent only when it is joined. -/
inductive Listener where
  | absent
  | checking
  | polling
  | handling
  | ended
  deriving DecidableEq

structure Service where
  isRunning : Bool
  owner : Owner
  eventCount : ℕ
  listener : Listener
  watch : Watch
  terminated : Bool
  deriving DecidableEq

inductive ServiceAct where
  | start (granted : Bool)
  | startThrows
  | stop
  | signal
  | join
  | writer (a : Act)
  | check
  | pollFails
  | poll
  | readFails
  | openFails
  | listen (a : Act)
  deriving DecidableEq

def Act.writes : Act → Bool
  | .openFile | .truncate _ | .write _ _ | .close _ => true
  | _ => false

def Act.handles : Act → Bool
  | .readEvents | .openStream | .readChunk _ | .getline | .callback => true
  | _ => false

namespace Service

def new (content : Text) (writers : ℕ) : Service := ⟨false, .free, 0, .absent, .start content writers, false⟩

/-- Both descriptors are new, so neither an event nor a stop is left over from an earlier thread. -/
def opened (s : Service) : Service :=
  { s with isRunning := true, eventCount := 0, watch := { s.watch with queued := 0 } }

def step (s : Service) : ServiceAct → Option Service
  | .start granted =>
      if s.owner = .free then
        if s.isRunning ∨ ¬ granted then some s
        -- To assign to a thread that is still joinable ends the program.
        else if s.listener ≠ .absent then some { s with terminated := true }
        else some { s.opened with listener := .checking }
      else none
  | .startThrows =>
      if s.owner = .free then
        if s.isRunning then some s else some s.opened
      else none
  | .stop =>
      if s.owner = .free then
        if s.isRunning then some { s with isRunning := false, owner := .signalling } else some s
      else none
  | .signal =>
      if s.owner = .signalling then some { s with eventCount := s.eventCount + 1, owner := .joining } else none
  | .join =>
      if s.owner = .joining ∧ (s.listener = .absent ∨ s.listener = .ended) then
        some { s with owner := .free, listener := .absent }
      else none
  | .writer a => if a.writes then (Events.step s.watch a).map fun watch => { s with watch := watch } else none
  | .check =>
      if s.listener = .checking then some { s with listener := if s.isRunning then .polling else .ended } else none
  | .pollFails => if s.listener = .polling then some { s with listener := .checking } else none
  | .poll =>
      if s.listener = .polling then
        if 0 < s.eventCount then some { s with listener := .ended }
        else (Events.step s.watch .poll).map fun watch => { s with watch := watch, listener := .handling }
      else none
  | .readFails =>
      if s.listener = .handling ∧ s.watch.phase = .woken then
        some { s with listener := .checking, watch := { s.watch with phase := .poll } }
      else none
  | .openFails =>
      if s.listener = .handling ∧ s.watch.phase = .notified then
        some { s with listener := .checking, watch := { s.watch with phase := .poll } }
      else none
  | .listen a =>
      if s.listener = .handling ∧ a.handles then
        (Events.step s.watch a).map fun watch =>
          { s with watch := watch, listener := if watch.phase = .poll then .checking else .handling }
      else none

end Service

def Phase.left : Phase → ℕ
  | .poll => 0
  | .calling _ => 1
  | .reading _ => 2
  | .notified => 3
  | .woken => 4

namespace ServiceAct

def moves : ServiceAct → Bool
  | .signal | .join | .check | .pollFails | .poll | .readFails | .openFails => true
  | .listen (.readChunk _) => false
  | .listen _ => true
  | _ => false

def starts : ServiceAct → Bool
  | .start _ | .startThrows => true
  | _ => false

def serves : ServiceAct → Bool
  | .signal | .join | .check | .poll | .listen _ => true
  | _ => false

end ServiceAct

section Watching

variable {w w' : Watch} {a : Act}

lemma writes_keeps (ha : a.writes) (h : step w a = some w') : w'.phase = w.phase ∧ w'.callbacks = w.callbacks := by
  cases a with
  | openFile =>
    cases h
    exact ⟨rfl, rfl⟩
  | truncate n =>
    obtain ⟨-, rfl⟩ := by simpa [step] using h
    exact ⟨rfl, rfl⟩
  | write offset chunk =>
    obtain ⟨-, rfl⟩ := by simpa [step] using h
    exact ⟨rfl, rfl⟩
  | close merged =>
    simp only [step, Option.ite_none_right_eq_some, Option.some.injEq] at h
    obtain ⟨-, rfl⟩ := h
    exact ⟨rfl, rfl⟩
  | _ => cases ha

lemma left_deliver (line : Text) : (deliver line).left ≤ 1 := by
  rw [deliver]
  split_ifs <;> simp [Phase.left]

lemma left_gather (line chunk : Text) : (gather line chunk).left ≤ 2 := by
  have hd := left_deliver line
  have hd' := left_deliver (line ++ firstLine chunk)
  rw [gather]
  split_ifs
  · omega
  · omega
  · exact le_rfl

def Watch.heardAtMost (w : Watch) : ℕ := w.callbacks.length + if w.phase = .poll then 0 else 1

lemma heardAtMost_le (hp : w.phase ≠ .poll) (hc : w'.callbacks = w.callbacks) :
    w'.heardAtMost ≤ w.heardAtMost := by
  rw [Watch.heardAtMost, Watch.heardAtMost, hc, if_neg hp]
  split_ifs <;> omega

lemma handles_keeps (ha : a.handles) (h : step w a = some w') :
    w.callbacks <+: w'.callbacks ∧ w'.heardAtMost ≤ w.heardAtMost ∧
      (if (ServiceAct.listen a).moves then 1 else 0) + w'.phase.left ≤ w.phase.left := by
  cases a with
  | readEvents =>
    obtain ⟨hp, rfl⟩ := by simpa [step] using h
    have hne : w.phase ≠ .poll := by simp [hp]
    refine ⟨List.prefix_rfl, heardAtMost_le hne rfl, ?_⟩
    rw [hp]
    simp [ServiceAct.moves, Phase.left]
  | openStream =>
    obtain ⟨hp, rfl⟩ := by simpa [step] using h
    have hne : w.phase ≠ .poll := by simp [hp]
    refine ⟨List.prefix_rfl, heardAtMost_le hne rfl, ?_⟩
    rw [hp]
    simp [ServiceAct.moves, Phase.left]
  | readChunk n =>
    simp only [step] at h
    split at h
    · next line hp =>
      obtain ⟨-, rfl⟩ := by simpa using h
      have hne : w.phase ≠ .poll := by simp [hp]
      have hleft := left_gather line ((w.content.drop line.length).take n)
      refine ⟨List.prefix_rfl, heardAtMost_le hne rfl, ?_⟩
      rw [hp]
      simpa [ServiceAct.moves, Phase.left] using hleft
    · cases h
  | getline =>
    obtain ⟨hp, rfl⟩ := by simpa [step] using h
    have hne : w.phase ≠ .poll := by simp [hp]
    have hleft := left_deliver (firstLine w.content)
    refine ⟨List.prefix_rfl, heardAtMost_le hne rfl, ?_⟩
    rw [hp]
    show 1 + (deliver (firstLine w.content)).left ≤ 2
    omega
  | callback =>
    simp only [step] at h
    split at h
    · next line hp =>
      cases h
      refine ⟨List.prefix_append _ _, ?_, ?_⟩
      · simp [Watch.heardAtMost, hp]
      · rw [hp]
        simp [ServiceAct.moves, Phase.left]
    · cases h
  | _ => cases ha

end Watching

structure Service.Sound (s : Service) : Prop where
  alive : s.terminated = false
  stopping : s.owner ≠ .free → s.isRunning = false
  signalled : s.owner = .joining → 0 < s.eventCount
  joined : s.owner = .free → s.isRunning = false → s.listener = .absent
  handling : s.listener = .handling ↔ s.watch.phase ≠ .poll

section Service

variable {s t : Service} {a : ServiceAct}

open Service

lemma sound_new (content : Text) (writers : ℕ) : (new content writers).Sound :=
  ⟨rfl, fun _ => rfl, nofun, fun _ _ => rfl, by simp [new, Watch.start]⟩

lemma Service.Sound.listens (h : s.Sound) (hlive : s.listener ≠ .absent) {listener : Listener} {watch : Watch}
    (hw : listener = .handling ↔ watch.phase ≠ .poll) :
    { s with listener := listener, watch := watch }.Sound :=
  ⟨h.alive, h.stopping, h.signalled, fun hfree hr => absurd (h.joined hfree hr) hlive, hw⟩

lemma step_sound (h : s.Sound) (hs : Service.step s a = some t) : t.Sound := by
  cases a with
  | start granted =>
    simp only [Service.step, Option.ite_none_right_eq_some] at hs
    obtain ⟨hfree, hs⟩ := hs
    split_ifs at hs with hkept hjoined
    · cases hs
      exact h
    · have hr : s.isRunning = false := by simpa using (not_or.mp hkept).1
      exact absurd (h.joined hfree hr) hjoined
    · cases hs
      have hphase : s.watch.phase = .poll := by
        by_contra hp
        rw [h.handling.mpr hp] at hjoined
        exact hjoined nofun
      refine ⟨h.alive, fun hne => absurd hfree hne, fun hj => ?_, fun _ hr => ?_, ?_⟩
      · cases hfree.symm.trans hj
      · cases hr
      · simp [Service.opened, hphase]
  | startThrows =>
    simp only [Service.step, Option.ite_none_right_eq_some] at hs
    obtain ⟨hfree, hs⟩ := hs
    split_ifs at hs with hr <;> cases hs
    · exact h
    · refine ⟨h.alive, fun hne => absurd hfree hne, fun hj => ?_, fun _ hr => ?_, h.handling⟩
      · cases hfree.symm.trans hj
      · cases hr
  | stop =>
    simp only [Service.step, Option.ite_none_right_eq_some] at hs
    obtain ⟨hfree, hs⟩ := hs
    split_ifs at hs with hr <;> cases hs
    · exact ⟨h.alive, fun _ => rfl, nofun, nofun, h.handling⟩
    · exact h
  | signal =>
    obtain ⟨howner, rfl⟩ := by simpa [Service.step] using hs
    exact ⟨h.alive, fun _ => h.stopping (by simp [howner]), fun _ => Nat.succ_pos _, nofun, h.handling⟩
  | join =>
    obtain ⟨⟨howner, hover⟩, rfl⟩ := by simpa [Service.step] using hs
    have hphase : s.watch.phase = .poll := by
      by_contra hp
      rw [h.handling.mpr hp] at hover
      rcases hover with hover | hover <;> cases hover
    exact ⟨h.alive, fun hne => absurd rfl hne, nofun, fun _ _ => rfl, by simp [hphase]⟩
  | writer a =>
    simp only [Service.step, Option.ite_none_right_eq_some, Option.map_eq_some_iff] at hs
    obtain ⟨hw, watch, hstep, rfl⟩ := hs
    refine ⟨h.alive, h.stopping, h.signalled, h.joined, ?_⟩
    rw [(writes_keeps hw hstep).1]
    exact h.handling
  | check =>
    obtain ⟨hl, rfl⟩ := by simpa [Service.step] using hs
    have hphase : s.watch.phase = .poll := by simpa [hl] using h.handling
    refine h.listens (by simp [hl]) ?_
    split_ifs <;> simp [hphase]
  | pollFails =>
    obtain ⟨hl, rfl⟩ := by simpa [Service.step] using hs
    have hphase : s.watch.phase = .poll := by simpa [hl] using h.handling
    exact h.listens (by simp [hl]) (by simp [hphase])
  | poll =>
    simp only [Service.step, Option.ite_none_right_eq_some] at hs
    obtain ⟨hl, hs⟩ := hs
    have hphase : s.watch.phase = .poll := by simpa [hl] using h.handling
    split_ifs at hs with hstop
    · cases hs
      exact h.listens (by simp [hl]) (by simp [hphase])
    · obtain ⟨watch, hstep, rfl⟩ := Option.map_eq_some_iff.mp hs
      obtain ⟨-, rfl⟩ := by simpa [Events.step] using hstep
      exact h.listens (by simp [hl]) (by simp)
  | readFails =>
    obtain ⟨⟨hl, -⟩, rfl⟩ := by simpa [Service.step] using hs
    exact h.listens (by simp [hl]) (by simp)
  | openFails =>
    obtain ⟨⟨hl, -⟩, rfl⟩ := by simpa [Service.step] using hs
    exact h.listens (by simp [hl]) (by simp)
  | listen a =>
    simp only [Service.step, Option.ite_none_right_eq_some, Option.map_eq_some_iff] at hs
    obtain ⟨⟨hl, ha⟩, watch, hstep, rfl⟩ := hs
    refine h.listens (by simp [hl]) ?_
    split_ifs with hp <;> simp [hp]

def Service.atMost (s : Service) : ℕ := s.watch.heardAtMost + if s.listener = .polling then 1 else 0

def Owner.left : Owner → ℕ
  | .free => 0
  | .joining => 1
  | .signalling => 2

def Listener.left (phase : Phase) : Listener → ℕ
  | .absent | .ended => 0
  | .checking => 1
  | .handling => 1 + phase.left
  | .polling => 6

def Service.left (s : Service) : ℕ := s.owner.left + s.listener.left s.watch.phase

lemma left_loop (phase : Phase) :
    (if phase = .poll then Listener.checking else .handling).left phase = 1 + phase.left := by
  split_ifs with hp
  · rw [hp]
    rfl
  · rfl

lemma left_le (s : Service) : s.left ≤ 8 := by
  have howner : s.owner.left ≤ 2 := by cases s.owner <;> decide
  have hphase : s.watch.phase.left ≤ 4 := by cases s.watch.phase <;> simp [Phase.left]
  unfold Service.left
  cases s.listener <;> simp only [Listener.left] <;> omega

structure Winds (a : ServiceAct) (s t : Service) : Prop where
  halted : t.isRunning = false
  grows : s.watch.callbacks <+: t.watch.callbacks
  heard : t.atMost ≤ s.atMost
  left : (if a.moves then 1 else 0) + t.left ≤ s.left

lemma winds_listen {act : Act} {watch : Watch} (hr : s.isRunning = false) (hl : s.listener = .handling)
    (ha : act.handles) (hstep : Events.step s.watch act = some watch) :
    Winds (.listen act) s
      { s with watch := watch, listener := if watch.phase = .poll then .checking else .handling } := by
  obtain ⟨hgrows, hheard, hleft⟩ := handles_keeps ha hstep
  refine ⟨hr, hgrows, ?_, ?_⟩
  · have hne : (if watch.phase = .poll then Listener.checking else .handling) ≠ .polling := by
      split_ifs <;> nofun
    simp only [Service.atMost, if_neg hne, hl]
    exact hheard
  · have hbefore : s.left = s.owner.left + (1 + s.watch.phase.left) := by rw [Service.left, hl, Listener.left]
    rw [hbefore]
    simp only [Service.left, left_loop]
    omega

lemma step_winds (h : s.Sound) (hr : s.isRunning = false) (ha : a.starts = false)
    (hs : Service.step s a = some t) :
    Winds a s t := by
  cases a with
  | start granted => cases ha
  | startThrows => cases ha
  | stop =>
    simp only [Service.step, Option.ite_none_right_eq_some] at hs
    obtain ⟨hfree, hs⟩ := hs
    rw [if_neg (by simp [hr])] at hs
    cases hs
    exact ⟨hr, List.prefix_rfl, le_rfl, by simp [ServiceAct.moves]⟩
  | signal =>
    obtain ⟨howner, rfl⟩ := by simpa [Service.step] using hs
    refine ⟨hr, List.prefix_rfl, le_rfl, ?_⟩
    simp only [Service.left, howner, Owner.left, ServiceAct.moves, if_true]
    omega
  | join =>
    obtain ⟨⟨howner, hover⟩, rfl⟩ := by simpa [Service.step] using hs
    have hnone : s.listener.left s.watch.phase = 0 := by rcases hover with hover | hover <;> rw [hover] <;> rfl
    have hbefore : s.left = 1 := by rw [Service.left, howner, hnone, Owner.left]
    refine ⟨hr, List.prefix_rfl, ?_, ?_⟩
    · rcases hover with hover | hover <;> simp [Service.atMost, hover]
    · rw [hbefore]
      rfl
  | writer a =>
    simp only [Service.step, Option.ite_none_right_eq_some, Option.map_eq_some_iff] at hs
    obtain ⟨hw, watch, hstep, rfl⟩ := hs
    obtain ⟨hphase, hcallbacks⟩ := writes_keeps hw hstep
    refine ⟨hr, by rw [hcallbacks], ?_, ?_⟩
    · simp only [Service.atMost, Watch.heardAtMost, hphase, hcallbacks, le_refl]
    · simp [Service.left, hphase, ServiceAct.moves]
  | check =>
    obtain ⟨hl, rfl⟩ := by simpa [Service.step] using hs
    refine ⟨hr, List.prefix_rfl, ?_, ?_⟩
    · simp [Service.atMost, hl, hr]
    · simp only [Service.left, hl, hr, ServiceAct.moves, Listener.left, Bool.false_eq_true, if_true, if_false]
      omega
  | pollFails =>
    obtain ⟨hl, rfl⟩ := by simpa [Service.step] using hs
    refine ⟨hr, List.prefix_rfl, ?_, ?_⟩
    · simp [Service.atMost, hl]
    · simp only [Service.left, hl, ServiceAct.moves, Listener.left, if_true]
      omega
  | poll =>
    simp only [Service.step, Option.ite_none_right_eq_some] at hs
    obtain ⟨hl, hs⟩ := hs
    have hphase : s.watch.phase = .poll := by simpa [hl] using h.handling
    split_ifs at hs with hstop
    · cases hs
      refine ⟨hr, List.prefix_rfl, ?_, ?_⟩
      · simp [Service.atMost, hl]
      · simp only [Service.left, hl, ServiceAct.moves, Listener.left, if_true]
        omega
    · obtain ⟨watch, hstep, rfl⟩ := Option.map_eq_some_iff.mp hs
      obtain ⟨-, rfl⟩ := by simpa [Events.step] using hstep
      refine ⟨hr, List.prefix_rfl, ?_, ?_⟩
      · simp [Service.atMost, Watch.heardAtMost, hl, hphase]
      · simp only [Service.left, hl, ServiceAct.moves, Listener.left, Phase.left, if_true]
        omega
  | readFails =>
    obtain ⟨⟨hl, hp⟩, rfl⟩ := by simpa [Service.step] using hs
    refine ⟨hr, List.prefix_rfl, ?_, ?_⟩
    · simp [Service.atMost, Watch.heardAtMost, hl, hp]
    · simp only [Service.left, hl, hp, ServiceAct.moves, Listener.left, Phase.left, if_true]
      omega
  | openFails =>
    obtain ⟨⟨hl, hp⟩, rfl⟩ := by simpa [Service.step] using hs
    refine ⟨hr, List.prefix_rfl, ?_, ?_⟩
    · simp [Service.atMost, Watch.heardAtMost, hl, hp]
    · simp only [Service.left, hl, hp, ServiceAct.moves, Listener.left, Phase.left, if_true]
      omega
  | listen a =>
    simp only [Service.step, Option.ite_none_right_eq_some, Option.map_eq_some_iff] at hs
    obtain ⟨⟨hl, hh⟩, watch, hstep, rfl⟩ := hs
    exact winds_listen hr hl hh hstep

lemma atMost_le (h : s.Sound) : s.atMost ≤ s.watch.callbacks.length + 1 := by
  unfold Service.atMost Watch.heardAtMost
  by_cases hl : s.listener = .polling
  · have hphase : s.watch.phase = .poll := by simpa [hl] using h.handling
    simp [hl, hphase]
  · rw [if_neg hl]
    split_ifs <;> omega

lemma atMost_absent (h : s.Sound) (hl : s.listener = .absent) : s.atMost = s.watch.callbacks.length := by
  have hphase : s.watch.phase = .poll := by simpa [hl] using h.handling
  simp [Service.atMost, Watch.heardAtMost, hl, hphase]

structure Halted (s t : Service) : Prop where
  sound : t.Sound
  halted : t.isRunning = false
  grows : s.watch.callbacks <+: t.watch.callbacks
  heard : t.atMost ≤ s.atMost

lemma runs_halted {acts : List ServiceAct} (h : s.Sound) (hr : s.isRunning = false)
    (hstarts : ∀ a ∈ acts, a.starts = false) (hrun : runs Service.step s acts = some t) :
    Halted s t ∧ acts.countP ServiceAct.moves + t.left ≤ s.left := by
  refine countP_add_le ?_ ⟨h, hr, List.prefix_rfl, le_rfl⟩ hstarts hrun
  intro u a v hu ha hv
  have hw := step_winds hu.sound hu.halted ha hv
  exact ⟨⟨step_sound hu.sound hv, hw.halted, hu.grows.trans hw.grows, hw.heard.trans hu.heard⟩, hw.left⟩

lemma exists_serves (h : s.Sound) (howner : s.owner ≠ .free) :
    ∃ a, a.serves = true ∧ (Service.step s a).isSome := by
  cases ho : s.owner with
  | free => exact absurd ho howner
  | signalling => exact ⟨.signal, rfl, by simp [Service.step, ho]⟩
  | joining =>
    cases hl : s.listener with
    | absent => exact ⟨.join, rfl, by simp [Service.step, ho, hl]⟩
    | ended => exact ⟨.join, rfl, by simp [Service.step, ho, hl]⟩
    | checking => exact ⟨.check, rfl, by simp [Service.step, hl]⟩
    | polling => exact ⟨.poll, rfl, by simp [Service.step, hl, h.signalled ho]⟩
    | handling =>
      cases hp : s.watch.phase with
      | poll => exact absurd hp (h.handling.mp hl)
      | woken => exact ⟨.listen .readEvents, rfl, by simp [Service.step, hl, Act.handles, Events.step, hp]⟩
      | notified => exact ⟨.listen .openStream, rfl, by simp [Service.step, hl, Act.handles, Events.step, hp]⟩
      | reading line => exact ⟨.listen (.readChunk 1), rfl,
        by simp [Service.step, hl, Act.handles, Events.step, hp]⟩
      | calling line => exact ⟨.listen .callback, rfl, by simp [Service.step, hl, Act.handles, Events.step, hp]⟩

end Service

section Stopping

variable (content : Text) (writers : ℕ) (acts more : List ServiceAct) (s t : Service)
  (hrun : runs Service.step (.new content writers) acts = some s) (hhalted : s.isRunning = false)
  (hmore : runs Service.step s more = some t) (hstarts : ∀ a ∈ more, a.starts = false)

include hrun hhalted hmore hstarts

/-- From the moment `stop` takes the flag down and until the next `start`: at most one more callback is made, none
after `stop` has returned, and by then the thread has ended. -/
theorem stop_is_final :
    s.watch.callbacks <+: t.watch.callbacks ∧ t.watch.callbacks.length ≤ s.watch.callbacks.length + 1 ∧
      (s.owner = .free → t.watch.callbacks = s.watch.callbacks) ∧ (t.owner = .free → t.listener = .absent) ∧
      t.terminated = false := by
  have hs : s.Sound := invariant_runs (fun _ _ _ => step_sound) (sound_new content writers) hrun
  obtain ⟨ht, -⟩ := runs_halted hs hhalted hstarts hmore
  have hheard : t.watch.callbacks.length ≤ t.atMost := by
    unfold Service.atMost Watch.heardAtMost
    omega
  refine ⟨ht.grows, ?_, fun hfree => ?_, fun hfree => ht.sound.joined hfree ht.halted, ht.sound.alive⟩
  · exact (hheard.trans ht.heard).trans (atMost_le hs)
  · have hle := hheard.trans ht.heard
    rw [atMost_absent hs (hs.joined hfree hhalted)] at hle
    exact (ht.grows.eq_of_length_le hle).symm

/-- `stop` returns: the caller and the listener make at most eight moves besides reads of the file, and cannot both
be stuck before. -/
theorem stop_returns :
    more.countP ServiceAct.moves ≤ 8 ∧
      ((∀ a, a.serves = true → Service.step t a = none) → t.owner = .free) := by
  have hs : s.Sound := invariant_runs (fun _ _ _ => step_sound) (sound_new content writers) hrun
  obtain ⟨ht, hleft⟩ := runs_halted hs hhalted hstarts hmore
  constructor
  · have hle := left_le s
    omega
  · intro hstuck
    by_contra howner
    obtain ⟨a, ha, hsome⟩ := exists_serves ht.sound howner
    rw [hstuck a ha] at hsome
    cases hsome

end Stopping

def lastEvent : List ServiceAct :=
  [.start true, .check, .writer .openFile, .writer (.write 0 "blacklist:enabled".toList), .stop]

def lastCallback : List ServiceAct :=
  [.writer (.close false), .poll, .signal, .listen .readEvents, .listen .openStream, .listen .getline,
    .listen .callback, .check, .join]

theorem stop_is_final_late :
    ∃ s t, runs Service.step (.new [] 0) lastEvent = some s ∧ runs Service.step s lastCallback = some t ∧
      s.watch.callbacks = [] ∧ t.watch.callbacks = ["blacklist:enabled".toList] ∧ t.listener = .absent := by
  have hs := runs_reached Service.step (.new [] 0) lastEvent (by decide +kernel)
  have ht := runs_reached Service.step (reached Service.step (.new [] 0) lastEvent) lastCallback
    (by decide +kernel)
  obtain ⟨-, -, -, habsent, -⟩ := stop_is_final _ _ _ _ _ _ hs (by decide +kernel) ht (by decide)
  exact ⟨_, _, hs, ht, by decide +kernel, by decide +kernel, habsent (by decide +kernel)⟩

theorem stop_returns_late :
    ∃ s t, runs Service.step (.new [] 0) lastEvent = some s ∧ runs Service.step s lastCallback = some t ∧
      lastCallback.countP ServiceAct.moves = 8 ∧ lastCallback.countP ServiceAct.moves ≤ 8 ∧ t.owner = .free := by
  have hs := runs_reached Service.step (.new [] 0) lastEvent (by decide +kernel)
  have ht := runs_reached Service.step (reached Service.step (.new [] 0) lastEvent) lastCallback
    (by decide +kernel)
  exact ⟨_, _, hs, ht, by decide, (stop_returns _ _ _ _ _ _ hs (by decide +kernel) ht (by decide)).1,
    by decide +kernel⟩

end PacketFilter.Events
