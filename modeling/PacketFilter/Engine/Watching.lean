import PacketFilter.Engine.Notices
import PacketFilter.Engine.Runs
import PacketFilter.Library.Machines

/-! The loop in `main` of packetfilter.cpp that watches the configuration file, beside those who change it. -/

namespace PacketFilter.Engine

open Library Library.Bytes Library.Machines Library.Scanning Kernel

variable {N : ℕ}

def IN_ATTRIB : BitVec 32 := 0x00000004
def IN_IGNORED : BitVec 32 := 0x00008000

/-- A record in the kernel's queue; for a watch on a file it carries no name. -/
structure Notice where
  wd : BitVec 32
  mask : BitVec 32
  deriving DecidableEq

def Notice.event (n : Notice) : InotifyEvent := ⟨n.wd, n.mask, 0, [], Nat.two_pow_pos 32⟩

/-- A record like the newest one in the queue is merged with it. -/
def post (queue : List Notice) (n : Notice) : List Notice :=
  if queue.getLast? = some n then queue else queue ++ [n]

def overlay (bytes : List (BitVec 8)) (rest : Memory) : Memory := fun i => bytes.getD i (rest i)

def visitsOf (notices : List Notice) (rest : Memory) : List Visit :=
  let events := notices.map Notice.event
  eventLoop (overlay (events.flatMap InotifyEvent.bytes) rest) (bytesRead events) (fun _ => 1) 0

inductive MainPhase where
  | starting
  | selecting
  | visiting (visits : List Visit)
  | loading (visits : List Visit) (opened : Option ℕ) (touched : Bool)
  | left
  | terminated
  deriving DecidableEq

namespace MainPhase

def visits : MainPhase → List Visit
  | .visiting vs | .loading vs _ _ => vs
  | _ => []

def opened : MainPhase → Option ℕ
  | .loading _ opened _ => opened
  | _ => none

/-- A write to the file that is being read may or may not be seen by the reader. -/
def touch (inode : ℕ) : MainPhase → MainPhase
  | .loading vs opened touched => .loading vs opened (touched || decide (opened = some inode))
  | p => p

end MainPhase

structure Watching (N : ℕ) where
  file : Option ℕ
  content : ℕ → Text
  watch : Option ℕ
  wd : BitVec 32
  queue : List Notice
  exiting : Bool
  phase : MainPhase
  engine : State N
  calls : List Call

inductive WatchAct where
  | write (inode : ℕ) (text : Text)
  | close (inode : ℕ)
  | chmod (inode : ℕ)
  | link (inode : ℕ)
  | unlink
  | move
  | release (inode : ℕ)
  | signal
  | addWatch
  | leave
  | read (k : ℕ) (rest : Memory)
  | visit
  | load (text : Text) (now : BitVec 64) (signalled : Bool)

namespace Watching

def start (env : Env N) (inode : ℕ) (content : ℕ → Text) (engine : State N) (now : BitVec 64) (signalled : Bool) :
    Watching N :=
  let call : Call := ⟨some (content inode), now, signalled⟩
  ⟨some inode, content, none, 0, [], false, .starting, engine.step env call, [call]⟩

def notify (s : Watching N) (inode : ℕ) (mask : BitVec 32) : Watching N :=
  if s.watch = some inode then { s with queue := post s.queue ⟨s.wd, mask⟩ } else s

/-- `inotify_rm_watch`, which fails without effect once the watch is gone. -/
def rmWatch (s : Watching N) : Watching N :=
  if s.watch.isSome then { s with watch := none, queue := post s.queue ⟨s.wd, IN_IGNORED⟩ } else s

def addWatch (s : Watching N) : Watching N := { s with watch := s.file, wd := s.wd + 1 }

def visit (s : Watching N) : Option (Watching N) :=
  match s.phase with
  | .visiting [] => some { s with phase := .selecting }
  | .visiting (v :: vs) =>
    match v.action with
    | none => some { s with phase := .visiting vs }
    | some .update => some { s with phase := .loading vs s.file false }
    | some .rewatch =>
      if s.file.isSome then some { s.rmWatch.addWatch with phase := .visiting vs }
      else some { s.rmWatch with exiting := true, phase := .visiting [] }
  | _ => none

variable (env : Env N)

def load (s : Watching N) (text : Text) (now : BitVec 64) (signalled : Bool) : Option (Watching N) :=
  match s.phase with
  | .loading vs opened touched =>
    if touched ∨ ∀ i ∈ opened, text = s.content i then
      let call : Call := ⟨opened.map (fun _ => text), now, signalled⟩
      let r := s.engine.updateFromConfig env call
      some { s with
        engine := r.2
        calls := s.calls ++ [call]
        phase := if r.1 = .threw then .terminated else .visiting vs }
    else none
  | _ => none

def step (s : Watching N) : WatchAct → Option (Watching N)
  | .write inode text =>
      some { s.notify inode IN_MODIFY with
        content := Function.update s.content inode text
        phase := s.phase.touch inode }
  | .close inode => some (s.notify inode IN_CLOSE_WRITE)
  | .chmod inode => some (s.notify inode IN_ATTRIB)
  | .link inode =>
      if s.file = some inode then none
      else some { s.file.elim s (fun old => s.notify old IN_ATTRIB) with file := some inode }
  | .unlink => s.file.map (fun old => { s.notify old IN_ATTRIB with file := none })
  | .move => s.file.map (fun old => { s.notify old IN_MOVE_SELF with file := none })
  | .release inode =>
      if s.file = some inode ∨ s.phase.opened = some inode then none
      else if s.watch = some inode then
        some { s with watch := none, queue := post (post s.queue ⟨s.wd, IN_DELETE_SELF⟩) ⟨s.wd, IN_IGNORED⟩ }
      else some s
  | .signal => some { s with exiting := true }
  | .addWatch =>
      if s.phase = .starting then some { s.addWatch with phase := if s.file.isSome then .selecting else .left }
      else none
  | .leave => if s.phase = .selecting ∧ s.exiting then some { s with phase := .left } else none
  | .read k rest =>
      if s.phase = .selecting ∧ 0 < k ∧ k ≤ s.queue.length then
        some { s with queue := s.queue.drop k, phase := .visiting (visitsOf (s.queue.take k) rest) }
      else none
  | .visit => s.visit
  | .load text now signalled => s.load env text now signalled

end Watching

section Stride

/-- The records that the loop gets to see: it goes on by 17 records of 16 bytes. -/
def strided {α : Type} : List α → List α
  | [] => []
  | x :: xs => x :: strided (xs.drop 16)
termination_by l => l.length
decreasing_by simp

lemma mem_of_mem_strided {α : Type} {x : α} {l : List α} (h : x ∈ strided l) : x ∈ l := by
  induction l using strided.induct with
  | case1 => simp [strided] at h
  | case2 y ys ih =>
    rw [strided] at h
    rcases List.mem_cons.mp h with rfl | h
    · exact List.mem_cons_self
    · exact List.mem_cons_of_mem _ (List.mem_of_mem_drop (ih h))

lemma holds_overlay (bytes : List (BitVec 8)) (rest : Memory) : Holds (overlay bytes rest) 0 bytes := by
  intro i hi
  simp [overlay, List.getD_eq_getElem?_getD, List.getElem?_eq_getElem hi]

lemma length_events (notices : List Notice) :
    ((notices.map Notice.event).flatMap InotifyEvent.bytes).length = 16 * notices.length := by
  induction notices with
  | nil => rfl
  | cons n notices ih =>
    rw [List.map_cons, List.flatMap_cons, List.length_append, ih, InotifyEvent.length_bytes]
    simp [Notice.event, INOTIFY_EVENT_SIZE]
    omega

lemma actions_eventLoop {m : Memory} (notices : List Notice) {p len : ℕ}
    (h : Holds m p ((notices.map Notice.event).flatMap InotifyEvent.bytes))
    (hlen : len = p + 16 * notices.length) :
    (eventLoop m len (fun _ => 1) p).map Visit.action = (strided notices).map (fun n => action n.mask) := by
  induction notices using strided.induct generalizing p with
  | case1 =>
    rw [List.length_nil] at hlen
    rw [eventLoop_of_le (by omega)]
    simp [strided]
  | case2 n notices ih =>
    rw [List.length_cons] at hlen
    have hfirst : Holds m p n.event.bytes := by
      rw [List.map_cons, List.flatMap_cons] at h
      exact h.left
    have hmask : word m (p + 4) = n.mask := mask_read hfirst
    have hname : (word m (p + 12)).toNat = 0 := len_read hfirst
    have hnext : (eventLoop m len (fun _ => 1) (p + (EVENT_SIZE + (word m (p + 12)).toNat))).map Visit.action =
        (strided (notices.drop 16)).map (fun n => action n.mask) := by
      rw [hname]
      simp only [EVENT_SIZE, INOTIFY_EVENT_SIZE, NAME_MAX]
      rcases Nat.lt_or_ge notices.length 16 with hshort | hlong
      · -- the next step leaves the records that were read
        rw [eventLoop_of_le (by omega), List.drop_of_length_le (by omega)]
        simp [strided]
      · have hsplit : n :: notices = (n :: notices.take 16) ++ notices.drop 16 := by simp
        rw [hsplit, List.map_append, List.flatMap_append] at h
        have hrest := h.right
        rw [length_events, List.length_cons, List.length_take_of_le hlong] at hrest
        refine ih hrest ?_
        rw [List.length_drop]
        omega
    rw [strided, List.map_cons, ← hnext, eventLoop, if_pos (by omega), if_neg (by simp), hmask,
      List.map_cons]

lemma actions_visitsOf (notices : List Notice) (rest : Memory) :
    (visitsOf notices rest).map Visit.action = (strided notices).map (fun n => action n.mask) := by
  apply actions_eventLoop _ (holds_overlay _ rest)
  rw [bytesRead, length_events, Nat.zero_add]

end Stride

namespace Watching

/-- Nobody writes to the file between the first load and the watch, replaces it, or gets a batch of records whose
written ones the stride of the loop passes over. -/
def Orderly (s : Watching N) : WatchAct → Prop
  | .write inode _ => s.phase = .starting → s.file ≠ some inode
  | .link _ | .unlink | .move => False
  | .read k _ => (∃ n ∈ strided (s.queue.take k), Written n.mask) ∨ ∀ n ∈ s.queue.take k, ¬ Written n.mask
  | _ => True

instance (s : Watching N) : (a : WatchAct) → Decidable (s.Orderly a)
  | .write inode _ => inferInstanceAs (Decidable (s.phase = .starting → s.file ≠ some inode))
  | .read k _ => inferInstanceAs (Decidable
      ((∃ n ∈ strided (s.queue.take k), Written n.mask) ∨ ∀ n ∈ s.queue.take k, ¬ Written n.mask))
  | .link _ | .unlink | .move => isFalse (fun h => h)
  | .close _ | .chmod _ | .release _ | .signal | .addWatch | .leave | .visit | .load _ _ _ => isTrue trivial

def Loaded (s : Watching N) : Prop := s.calls.getLast?.map Call.file = some (s.file.map s.content)

def Awaits (s : Watching N) : Prop :=
  match s.phase with
  | .starting | .selecting => s.Loaded
  | .visiting vs => s.Loaded ∨ ∃ v ∈ vs, v.action = some .update
  | .loading _ opened touched => touched = false ∧ opened = s.file
  | .left | .terminated => True

structure Tracks (s : Watching N) : Prop where
  quiet : ∀ n ∈ s.queue, ¬ Gone n.mask
  plain : ∀ v ∈ s.phase.visits, v.action ≠ some .rewatch
  present : s.file.isSome
  watched : s.phase = .starting ∧ s.watch = none ∨ s.watch = s.file
  current : (∃ n ∈ s.queue, Written n.mask) ∨ s.Awaits

end Watching

section Tracking

variable {s t : Watching N}

lemma mem_post {queue : List Notice} {n m : Notice} : m ∈ post queue n ↔ m ∈ queue ∨ m = n := by
  unfold post
  split_ifs with h
  · have hn : n ∈ queue := List.mem_of_getLast? h
    constructor
    · exact Or.inl
    · rintro (hm | rfl)
      · exact hm
      · exact hn
  · simp

lemma notify_fields (s : Watching N) (inode : ℕ) (mask : BitVec 32) :
    (s.notify inode mask).file = s.file ∧ (s.notify inode mask).watch = s.watch ∧
      (s.notify inode mask).phase = s.phase ∧ (s.notify inode mask).content = s.content ∧
      (s.notify inode mask).calls = s.calls ∧ (s.notify inode mask).engine = s.engine := by
  unfold Watching.notify
  split_ifs <;> exact ⟨rfl, rfl, rfl, rfl, rfl, rfl⟩

lemma mem_queue_notify {inode : ℕ} {mask : BitVec 32} {m : Notice} :
    m ∈ (s.notify inode mask).queue ↔ m ∈ s.queue ∨ s.watch = some inode ∧ m = ⟨s.wd, mask⟩ := by
  unfold Watching.notify
  split_ifs with h
  · simp [mem_post, h]
  · simp [h]

lemma written_modify : Written IN_MODIFY := by decide

lemma touch_visits (inode : ℕ) (p : MainPhase) : (p.touch inode).visits = p.visits := by cases p <;> rfl

lemma touch_eq_starting (inode : ℕ) (p : MainPhase) : p.touch inode = .starting ↔ p = .starting := by
  cases p <;> simp [MainPhase.touch]

lemma loaded_congr (hc : t.calls = s.calls) (hf : t.file.map t.content = s.file.map s.content) :
    t.Loaded ↔ s.Loaded := by
  rw [Watching.Loaded, Watching.Loaded, hc, hf]

lemma awaits_congr (hp : t.phase = s.phase) (hc : t.calls = s.calls) (hf : t.file = s.file)
    (hcontent : s.file.map t.content = s.file.map s.content) : t.Awaits ↔ s.Awaits := by
  have hl : t.Loaded ↔ s.Loaded := loaded_congr hc (by rw [hf, hcontent])
  unfold Watching.Awaits
  rw [hp]
  cases s.phase with
  | visiting vs => simp only [hl]
  | loading vs opened touched => simp only [hf]
  | _ => simp only [hl]

lemma Watching.Tracks.notify (hs : s.Tracks) (inode : ℕ) {mask : BitVec 32} (hm : ¬ Gone mask) :
    (s.notify inode mask).Tracks := by
  obtain ⟨hfile, hwatch, hphase, hcontent, hcalls, -⟩ := notify_fields s inode mask
  constructor
  case quiet =>
    intro n hn
    rcases mem_queue_notify.mp hn with hn | ⟨-, rfl⟩
    · exact hs.quiet n hn
    · exact hm
  case plain =>
    rw [hphase]
    exact hs.plain
  case present =>
    rw [hfile]
    exact hs.present
  case watched =>
    rw [hphase, hwatch, hfile]
    exact hs.watched
  case current =>
    rcases hs.current with ⟨n, hn, hw⟩ | ha
    · exact .inl ⟨n, mem_queue_notify.mpr (.inl hn), hw⟩
    · exact .inr ((awaits_congr hphase hcalls hfile (by rw [hcontent])).mpr ha)

lemma Watching.Tracks.write (hs : s.Tracks) {inode : ℕ} {text : Text}
    (ho : s.phase = .starting → s.file ≠ some inode) :
    ({ s.notify inode IN_MODIFY with
        content := Function.update s.content inode text
        phase := s.phase.touch inode } : Watching N).Tracks := by
  have hn := hs.notify inode (show ¬ Gone IN_MODIFY by decide)
  obtain ⟨hfile, hwatch, -, -, hcalls, -⟩ := notify_fields s inode IN_MODIFY
  have hplain : ∀ v ∈ (s.phase.touch inode).visits, v.action ≠ some .rewatch := by
    rw [touch_visits]
    exact hs.plain
  refine ⟨hn.quiet, hplain, hn.present, ?_, ?_⟩
  · rw [touch_eq_starting, hwatch, hfile]
    exact hs.watched
  · by_cases hi : s.file = some inode
    · -- the write leaves a record
      have hw : s.watch = some inode := by
        rcases hs.watched with ⟨hstart, -⟩ | hw
        · exact absurd hi (ho hstart)
        · rw [hw, hi]
      exact .inl ⟨⟨s.wd, IN_MODIFY⟩, mem_queue_notify.mpr (.inr ⟨hw, rfl⟩), written_modify⟩
    · rcases hs.current with ⟨n, hmem, hw⟩ | ha
      · exact .inl ⟨n, mem_queue_notify.mpr (.inl hmem), hw⟩
      · right
        refine (awaits_congr ?_ ?_ ?_ ?_).mpr ha
        · cases hp : s.phase with
          | loading vs opened touched =>
            rw [Watching.Awaits, hp] at ha
            simp [MainPhase.touch, ha.2, hi]
          | _ => rfl
        · exact hcalls
        · exact hfile
        · obtain ⟨j, hj⟩ := Option.isSome_iff_exists.mp hs.present
          have hne : j ≠ inode := by
            rintro rfl
            exact hi hj
          simp [hj, Function.update_of_ne hne]

lemma Watching.Tracks.read (hs : s.Tracks) {k : ℕ} {rest : Memory} (hp : s.phase = .selecting)
    (ho : (∃ n ∈ strided (s.queue.take k), Written n.mask) ∨ ∀ n ∈ s.queue.take k, ¬ Written n.mask) :
    ({ s with queue := s.queue.drop k, phase := .visiting (visitsOf (s.queue.take k) rest) } :
      Watching N).Tracks := by
  have hactions := actions_visitsOf (s.queue.take k) rest
  refine ⟨fun n hn => hs.quiet n (List.mem_of_mem_drop hn), ?_, hs.present, ?_, ?_⟩
  · intro v hv
    obtain ⟨n, hn, hv⟩ := List.mem_map.mp (hactions ▸ List.mem_map_of_mem hv)
    have hquiet := hs.quiet n (List.mem_of_mem_take (mem_of_mem_strided hn))
    rw [← hv, action, if_neg hquiet]
    split_ifs <;> simp
  · rcases hs.watched with ⟨hstart, -⟩ | hw
    · rw [hp] at hstart
      cases hstart
    · exact .inr hw
  · rcases ho with ⟨n, hn, hw⟩ | hnone
    · -- one of the visits is to a record of a write
      have hquiet := hs.quiet n (List.mem_of_mem_take (mem_of_mem_strided hn))
      have hmem : action n.mask ∈ (visitsOf (s.queue.take k) rest).map Visit.action :=
        hactions ▸ List.mem_map_of_mem hn
      obtain ⟨v, hv, ha⟩ := List.mem_map.mp hmem
      refine .inr (.inr ⟨v, hv, ?_⟩)
      rw [ha, action, if_neg hquiet, if_pos hw]
    · rcases hs.current with ⟨n, hn, hw⟩ | ha
      · have hdrop : n ∈ s.queue.drop k := by
          rw [← List.take_append_drop k s.queue] at hn
          exact (List.mem_append.mp hn).resolve_left (fun h => hnone n h hw)
        exact .inl ⟨n, hdrop, hw⟩
      · rw [Watching.Awaits, hp] at ha
        exact .inr (.inl ha)

lemma Watching.Tracks.visit (hs : s.Tracks) (h : s.visit = some t) : t.Tracks := by
  have hwatched (hne : s.phase ≠ .starting) : s.watch = s.file := by
    rcases hs.watched with ⟨hstart, -⟩ | hw
    · exact absurd hstart hne
    · exact hw
  cases hp : s.phase with
  | visiting vs =>
    have hw := hwatched (by rw [hp]; simp)
    have hplain := hs.plain
    have hcurrent := hs.current
    rw [hp] at hplain
    rw [Watching.Awaits, hp] at hcurrent
    cases vs with
    | nil =>
      obtain rfl : _ = t := by simpa [Watching.visit, hp] using h
      refine ⟨hs.quiet, List.forall_mem_nil _, hs.present, .inr hw, ?_⟩
      rcases hcurrent with hq | hl | ⟨v, hv, -⟩
      · exact .inl hq
      · exact .inr hl
      · cases hv
    | cons v vs =>
      have hrest : ∀ u ∈ vs, u.action ≠ some .rewatch := fun u hu => hplain u (List.mem_cons_of_mem _ hu)
      cases ha : v.action with
      | none =>
        obtain rfl : _ = t := by simpa [Watching.visit, hp, ha] using h
        refine ⟨hs.quiet, hrest, hs.present, .inr hw, ?_⟩
        rcases hcurrent with hq | hl | ⟨u, hu, hup⟩
        · exact .inl hq
        · exact .inr (.inl hl)
        · rcases List.mem_cons.mp hu with rfl | hu
          · rw [ha] at hup
            cases hup
          · exact .inr (.inr ⟨u, hu, hup⟩)
      | some a =>
        cases a with
        | update =>
          obtain rfl : _ = t := by simpa [Watching.visit, hp, ha] using h
          exact ⟨hs.quiet, hrest, hs.present, .inr hw, .inr ⟨rfl, rfl⟩⟩
        | rewatch => exact absurd ha (hplain v List.mem_cons_self)
  | _ => simp [Watching.visit, hp] at h

lemma Watching.Tracks.load {env : Env N} {text : Text} {now : BitVec 64} {signalled : Bool} (hs : s.Tracks)
    (h : s.load env text now signalled = some t) : t.Tracks := by
  cases hp : s.phase with
  | loading vs opened touched =>
    obtain ⟨htext, rfl⟩ : (touched = true ∨ ∀ i ∈ opened, text = s.content i) ∧ _ = t := by
      simpa [Watching.load, hp] using h
    have hw : s.watch = s.file := by
      rcases hs.watched with ⟨hstart, -⟩ | hw
      · rw [hp] at hstart
        cases hstart
      · exact hw
    have hplain := hs.plain
    have hcurrent := hs.current
    rw [hp] at hplain
    rw [Watching.Awaits, hp] at hcurrent
    refine ⟨hs.quiet, ?_, hs.present, .inr hw, ?_⟩
    · dsimp only
      split_ifs
      · exact List.forall_mem_nil _
      · exact hplain
    · rcases hcurrent with hq | ⟨hclean, hopened⟩
      · exact .inl hq
      · -- an undisturbed load has read the file
        have hread : ∀ i ∈ opened, text = s.content i := htext.resolve_left (by simp [hclean])
        right
        rw [Watching.Awaits]
        dsimp only
        split_ifs
        · trivial
        · refine .inl ?_
          rw [Watching.Loaded, List.getLast?_concat, Option.map_some, ← hopened]
          cases opened with
          | none => rfl
          | some i => simp [hread i rfl]
  | _ => simp [Watching.load, hp] at h

lemma tracks_step {env : Env N} (s : Watching N) (a : WatchAct) (t : Watching N) (hs : s.Tracks) (ho : s.Orderly a)
    (h : s.step env a = some t) : t.Tracks := by
  cases a with
  | write inode text =>
    cases h
    exact hs.write ho
  | close inode =>
    cases h
    exact hs.notify inode (by decide)
  | chmod inode =>
    cases h
    exact hs.notify inode (by decide)
  | link inode => cases ho
  | unlink => cases ho
  | move => cases ho
  | release inode =>
    simp only [Watching.step, Option.ite_none_left_eq_some, not_or] at h
    obtain ⟨⟨hfile, -⟩, h⟩ := h
    have hne : s.watch ≠ some inode := by
      rcases hs.watched with ⟨-, hw⟩ | hw
      · simp [hw]
      · rwa [hw]
    rw [if_neg hne] at h
    cases h
    exact hs
  | signal =>
    cases h
    exact ⟨hs.quiet, hs.plain, hs.present, hs.watched, hs.current⟩
  | addWatch =>
    simp only [Watching.step, Option.ite_none_right_eq_some] at h
    obtain ⟨hp, h⟩ := h
    rw [if_pos hs.present] at h
    cases h
    have hcurrent := hs.current
    rw [Watching.Awaits, hp] at hcurrent
    exact ⟨hs.quiet, List.forall_mem_nil _, hs.present, .inr rfl, hcurrent⟩
  | leave =>
    simp only [Watching.step, Option.ite_none_right_eq_some] at h
    obtain ⟨⟨hp, -⟩, h⟩ := h
    cases h
    have hw : s.watch = s.file := by
      rcases hs.watched with ⟨hstart, -⟩ | hw
      · rw [hp] at hstart
        cases hstart
      · exact hw
    exact ⟨hs.quiet, List.forall_mem_nil _, hs.present, .inr hw, .inr trivial⟩
  | read k rest =>
    simp only [Watching.step, Option.ite_none_right_eq_some] at h
    obtain ⟨⟨hp, -⟩, h⟩ := h
    cases h
    exact hs.read hp ho
  | visit => exact hs.visit h
  | load text now signalled => exact hs.load h

lemma tracks_start (env : Env N) (inode : ℕ) (content : ℕ → Text) (engine : State N) (now : BitVec 64)
    (signalled : Bool) : (Watching.start env inode content engine now signalled).Tracks :=
  ⟨List.forall_mem_nil _, List.forall_mem_nil _, rfl, .inl ⟨rfl, rfl⟩, .inr rfl⟩

lemma calls_visit (h : s.visit = some t) : t.calls = s.calls ∧ t.engine = s.engine := by
  have hrm : s.rmWatch.calls = s.calls ∧ s.rmWatch.engine = s.engine := by
    unfold Watching.rmWatch
    split_ifs <;> exact ⟨rfl, rfl⟩
  cases hp : s.phase with
  | visiting vs =>
    cases vs with
    | nil =>
      obtain rfl : _ = t := by simpa [Watching.visit, hp] using h
      exact ⟨rfl, rfl⟩
    | cons v vs =>
      cases ha : v.action with
      | none =>
        obtain rfl : _ = t := by simpa [Watching.visit, hp, ha] using h
        exact ⟨rfl, rfl⟩
      | some a =>
        cases a with
        | update =>
          obtain rfl : _ = t := by simpa [Watching.visit, hp, ha] using h
          exact ⟨rfl, rfl⟩
        | rewatch =>
          simp only [Watching.visit, hp, ha] at h
          split_ifs at h <;> cases h <;> exact hrm
  | _ => simp [Watching.visit, hp] at h

lemma calls_step {env : Env N} {a : WatchAct} (h : s.step env a = some t) :
    (t.calls = s.calls ∧ t.engine = s.engine) ∨
      ∃ call, t.calls = s.calls ++ [call] ∧ t.engine = s.engine.step env call := by
  have hnotify (inode : ℕ) (mask : BitVec 32) :
      (s.notify inode mask).calls = s.calls ∧ (s.notify inode mask).engine = s.engine := by
    obtain ⟨-, -, -, -, hc, he⟩ := notify_fields s inode mask
    exact ⟨hc, he⟩
  cases a with
  | write inode text =>
    cases h
    exact .inl (hnotify inode _)
  | close inode =>
    cases h
    exact .inl (hnotify inode _)
  | chmod inode =>
    cases h
    exact .inl (hnotify inode _)
  | link inode =>
    simp only [Watching.step, Option.ite_none_left_eq_some] at h
    obtain ⟨-, h⟩ := h
    cases h
    cases s.file with
    | none => exact .inl ⟨rfl, rfl⟩
    | some old => exact .inl (hnotify old _)
  | unlink =>
    obtain ⟨old, -, rfl⟩ := Option.map_eq_some_iff.mp h
    exact .inl (hnotify old _)
  | move =>
    obtain ⟨old, -, rfl⟩ := Option.map_eq_some_iff.mp h
    exact .inl (hnotify old _)
  | release inode =>
    simp only [Watching.step, Option.ite_none_left_eq_some] at h
    obtain ⟨-, h⟩ := h
    split_ifs at h <;> cases h <;> exact .inl ⟨rfl, rfl⟩
  | signal =>
    cases h
    exact .inl ⟨rfl, rfl⟩
  | visit => exact .inl (calls_visit h)
  | load text now signalled =>
    cases hp : s.phase with
    | loading vs opened touched =>
      obtain ⟨-, rfl⟩ : (touched = true ∨ ∀ i ∈ opened, text = s.content i) ∧ _ = t := by
        simpa [Watching.step, Watching.load, hp] using h
      exact .inr ⟨_, rfl, rfl⟩
    | _ => simp [Watching.step, Watching.load, hp] at h
  | _ =>
    simp only [Watching.step, Option.ite_none_right_eq_some] at h
    obtain ⟨-, h⟩ := h
    cases h
    exact .inl ⟨rfl, rfl⟩

lemma engine_runs {env : Env N} {engine : State N} {acts : List WatchAct}
    (hs : s.engine = runAll env engine s.calls)
    (hrun : runs (Watching.step env) s acts = some t) : t.engine = runAll env engine t.calls := by
  refine invariant_runs (I := fun s : Watching N => s.engine = runAll env engine s.calls) ?_ hs hrun
  intro s a t hs h
  rcases calls_step h with ⟨hc, he⟩ | ⟨call, hc, he⟩
  · rw [hc, he, hs]
  · rw [hc, he, hs, runAll, runAll, List.foldl_append]
    rfl

end Tracking

theorem watch_loop_converges (env : Env N) (inode : ℕ) (content : ℕ → Text) (engine : State N) (now : BitVec 64)
    (signalled : Bool) (acts : List WatchAct) (s : Watching N)
    (hrun : runs (Watching.step env) (.start env inode content engine now signalled) acts = some s)
    (horderly : Along (Watching.step env) Watching.Orderly (.start env inode content engine now signalled) acts)
    (hidle : s.phase = .selecting) (hqueue : s.queue = []) :
    ∃ call ∈ s.calls.getLast?, call.file = s.file.map s.content ∧ s.engine = runAll env engine s.calls := by
  have hs : s.Tracks :=
    invariant_along tracks_step (tracks_start env inode content engine now signalled) horderly hrun
  have hloaded : s.Loaded := by
    rcases hs.current with ⟨n, hn, -⟩ | ha
    · rw [hqueue] at hn
      cases hn
    · rwa [Watching.Awaits, hidle] at ha
  obtain ⟨call, hcall, hfile⟩ := Option.map_eq_some_iff.mp hloaded
  exact ⟨call, hcall, hfile, engine_runs rfl hrun⟩

def named : Text := "interface=eth0".toList

def listed : Text := "interface=eth0\nip_blacklist=10.0.0.1".toList

def watchedFile : Watching 4 := .start quiet 1 (fun _ => named) unloaded 0 true

def torn : List WatchAct :=
  [.addWatch, .write 1 "interface=eth0\nip_blacklist=10.9".toList, .read 1 (fun _ => 0), .visit, .write 1 listed,
    .load "interface=eth0\nip_blacklist=10.0".toList 0 true, .close 1, .visit, .read 2 (fun _ => 0), .visit,
    .load listed 0 true, .visit]

theorem watch_loop_converges_torn :
    ∃ s, runs (Watching.step quiet) watchedFile torn = some s ∧ s.calls.length = 3 ∧
      s.engine.Covers 0x0A000001#32 ∧
      ∃ call ∈ s.calls.getLast?, call.file = s.file.map s.content ∧ s.engine = runAll quiet unloaded s.calls := by
  have hrun := runs_reached (Watching.step quiet) watchedFile torn (by decide +kernel)
  exact ⟨_, hrun, by decide +kernel, by decide +kernel,
    watch_loop_converges quiet 1 (fun _ => named) unloaded 0 true
    torn _ hrun (by decide +kernel) (by decide +kernel) (by decide +kernel)⟩

-- A change of the file's mode before it is written keeps the loop from seeing the write.
example :
    let s := reached (Watching.step quiet) watchedFile
      [.addWatch, .chmod 1, .write 1 listed, .close 1, .read 3 (fun _ => 0), .visit, .visit]
    s.phase = .selecting ∧ s.queue = [] ∧ s.calls.map Call.file = [some named] ∧
      s.file.map s.content = some listed := by
  decide +kernel

structure Watching.Deaf (s : Watching N) : Prop where
  watch : s.watch = none
  queue : s.queue = []
  phase : s.phase = .selecting ∨ s.phase = .left ∨ ∃ vs, s.phase = .visiting vs ∧ ∀ v ∈ vs, v.action = none

section Deafness

variable {s t : Watching N}

lemma notify_of_unwatched (h : s.watch = none) (inode : ℕ) (mask : BitVec 32) : s.notify inode mask = s := by
  simp [Watching.notify, h]

lemma deaf_visit (hs : s.Deaf) (h : s.visit = some t) : t.Deaf := by
  rcases hs.phase with hp | hp | ⟨vs, hp, hvs⟩
  · simp [Watching.visit, hp] at h
  · simp [Watching.visit, hp] at h
  · cases vs with
    | nil =>
      obtain rfl : _ = t := by simpa [Watching.visit, hp] using h
      exact ⟨hs.watch, hs.queue, .inl rfl⟩
    | cons v vs =>
      have ha := hvs v List.mem_cons_self
      obtain rfl : _ = t := by simpa [Watching.visit, hp, ha] using h
      exact ⟨hs.watch, hs.queue, .inr (.inr ⟨vs, rfl, fun u hu => hvs u (List.mem_cons_of_mem _ hu)⟩)⟩

lemma deaf_step {env : Env N} {a : WatchAct} (hs : s.Deaf) (h : s.step env a = some t) :
    t.Deaf ∧ t.calls = s.calls ∧ t.engine = s.engine := by
  have hquiet : ∀ inode mask, s.notify inode mask = s := notify_of_unwatched hs.watch
  cases a with
  | write inode text =>
    cases h
    rw [hquiet]
    refine ⟨⟨hs.watch, hs.queue, ?_⟩, rfl, rfl⟩
    rcases hs.phase with hp | hp | ⟨vs, hp, hvs⟩
    · exact .inl (congrArg (MainPhase.touch inode) hp)
    · exact .inr (.inl (congrArg (MainPhase.touch inode) hp))
    · exact .inr (.inr ⟨vs, congrArg (MainPhase.touch inode) hp, hvs⟩)
  | close inode =>
    cases h
    rw [hquiet]
    exact ⟨hs, rfl, rfl⟩
  | chmod inode =>
    cases h
    rw [hquiet]
    exact ⟨hs, rfl, rfl⟩
  | link inode =>
    simp only [Watching.step, Option.ite_none_left_eq_some] at h
    obtain ⟨-, h⟩ := h
    cases h
    have hsame : s.file.elim s (fun old => s.notify old IN_ATTRIB) = s := by
      cases s.file with
      | none => rfl
      | some old => exact hquiet old _
    rw [hsame]
    exact ⟨⟨hs.watch, hs.queue, hs.phase⟩, rfl, rfl⟩
  | unlink =>
    obtain ⟨old, -, rfl⟩ := Option.map_eq_some_iff.mp h
    rw [hquiet]
    exact ⟨⟨hs.watch, hs.queue, hs.phase⟩, rfl, rfl⟩
  | move =>
    obtain ⟨old, -, rfl⟩ := Option.map_eq_some_iff.mp h
    rw [hquiet]
    exact ⟨⟨hs.watch, hs.queue, hs.phase⟩, rfl, rfl⟩
  | release inode =>
    simp only [Watching.step, Option.ite_none_left_eq_some] at h
    obtain ⟨-, h⟩ := h
    rw [if_neg (by simp [hs.watch])] at h
    cases h
    exact ⟨hs, rfl, rfl⟩
  | signal =>
    cases h
    exact ⟨⟨hs.watch, hs.queue, hs.phase⟩, rfl, rfl⟩
  | addWatch =>
    simp only [Watching.step, Option.ite_none_right_eq_some] at h
    rcases hs.phase with hp | hp | ⟨vs, hp, -⟩ <;> rw [hp] at h <;> cases h.1
  | leave =>
    simp only [Watching.step, Option.ite_none_right_eq_some] at h
    obtain ⟨-, h⟩ := h
    cases h
    exact ⟨⟨hs.watch, hs.queue, .inr (.inl rfl)⟩, rfl, rfl⟩
  | read k rest =>
    simp only [Watching.step, Option.ite_none_right_eq_some, hs.queue, List.length_nil] at h
    omega
  | visit => exact ⟨deaf_visit hs h, calls_visit h⟩
  | load text now signalled =>
    rcases hs.phase with hp | hp | ⟨vs, hp, -⟩ <;> simp [Watching.step, Watching.load, hp] at h

lemma deaf_runs {env : Env N} {acts : List WatchAct} (hs : s.Deaf)
    (hrun : runs (Watching.step env) s acts = some t) :
    t.calls = s.calls ∧ t.engine = s.engine := by
  have hinv := invariant_runs (I := fun u : Watching N => u.Deaf ∧ u.calls = s.calls ∧ u.engine = s.engine)
    (fun u a v hu h => ?_) ⟨hs, rfl, rfl⟩ hrun
  · exact hinv.2
  · obtain ⟨hd, hc, he⟩ := deaf_step hu.1 h
    exact ⟨hd, hc.trans hu.2.1, he.trans hu.2.2⟩

end Deafness

theorem replaced_file_ignored (env : Env N) (s t : Watching N) (i j : ℕ) (rest : Memory) (acts : List WatchAct)
    (hidle : s.phase = .selecting) (hwatch : s.watch = some i) (hfile : s.file = some i) (hqueue : s.queue = [])
    (hij : j ≠ i)
    (hrun : runs (Watching.step env) s (.link j :: .release i :: .read 3 rest :: acts) = some t) :
    t.calls = s.calls ∧ t.engine = s.engine := by
  obtain ⟨file, content, watch, wd, queue, exiting, phase, engine, calls⟩ := s
  obtain ⟨rfl, rfl, rfl, rfl⟩ : phase = .selecting ∧ watch = some i ∧ file = some i ∧ queue = [] :=
    ⟨hidle, hwatch, hfile, hqueue⟩
  obtain ⟨s₁, h₁, hrun⟩ := runs_cons.mp hrun
  obtain ⟨s₂, h₂, hrun⟩ := runs_cons.mp hrun
  obtain ⟨s₃, h₃, hrun⟩ := runs_cons.mp hrun
  -- the queue after the two changes: its link count, its deletion, and the end of the watch
  have hs₁ : s₁ = ⟨some j, content, some i, wd, [⟨wd, IN_ATTRIB⟩], exiting, .selecting, engine, calls⟩ := by
    have hij' : i ≠ j := hij.symm
    simpa [Watching.step, hij', Watching.notify, post, eq_comm] using h₁
  have hs₂ : s₂ = ⟨some j, content, none, wd, [⟨wd, IN_ATTRIB⟩, ⟨wd, IN_DELETE_SELF⟩, ⟨wd, IN_IGNORED⟩], exiting,
      .selecting, engine, calls⟩ := by
    have h1 : IN_ATTRIB ≠ IN_DELETE_SELF := by decide
    have h2 : IN_DELETE_SELF ≠ IN_IGNORED := by decide
    subst hs₁
    simpa [Watching.step, hij, hij.symm, MainPhase.opened, post, h1, h2, eq_comm] using h₂
  subst hs₂
  simp only [Watching.step, Option.ite_none_right_eq_some] at h₃
  obtain ⟨-, h₃⟩ := h₃
  cases h₃
  refine deaf_runs (s := ⟨some j, content, none, wd, [], exiting, .visiting (visitsOf _ rest), engine, calls⟩)
    ⟨rfl, rfl, .inr (.inr ⟨_, rfl, ?_⟩)⟩ hrun
  intro v hv
  have hmem := List.mem_map_of_mem (f := Visit.action) hv
  rw [actions_visitsOf] at hmem
  simpa [strided, action, Gone, Written, IN_ATTRIB, IN_DELETE_SELF, IN_MOVE_SELF, IN_MODIFY,
    IN_CLOSE_WRITE] using hmem

theorem replaced_file_ignored_written :
    ∃ t, runs (Watching.step quiet) (reached (Watching.step quiet) watchedFile [.addWatch])
        (.link 2 :: .release 1 :: .read 3 (fun _ => 0) :: [.visit, .visit, .write 2 listed, .close 2]) = some t ∧
      t.file.map t.content = some listed ∧ t.queue = [] ∧ t.phase = .selecting ∧
      t.calls = (reached (Watching.step quiet) watchedFile [.addWatch]).calls ∧
      t.engine = (reached (Watching.step quiet) watchedFile [.addWatch]).engine := by
  have hrun := runs_reached (Watching.step quiet) (reached (Watching.step quiet) watchedFile [.addWatch])
    (.link 2 :: .release 1 :: .read 3 (fun _ => 0) :: [.visit, .visit, .write 2 listed, .close 2])
    (by decide +kernel)
  exact ⟨_, hrun, by decide +kernel, by decide +kernel, by decide +kernel, replaced_file_ignored quiet _ _ 1 2
    (fun _ => 0) _ (by decide +kernel) (by decide +kernel) (by decide +kernel) (by decide +kernel)
      (by decide) hrun⟩

end PacketFilter.Engine
