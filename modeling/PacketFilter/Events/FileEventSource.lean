import PacketFilter.Library.Machines
import PacketFilter.Library.Scanning

/-! FileEventSource.cpp: a thread that watches one file and passes its first line on. -/

namespace PacketFilter.Events

open Library.Machines Library.Scanning

def firstLine (content : Text) : Text := content.takeWhile (· ≠ '\n')

/-- Where the listener loop stands. While it reads, it holds what `getline` has gathered so far. -/
inductive Phase where
  | poll
  | woken
  | notified
  | reading (line : Text)
  | calling (line : Text)
  deriving DecidableEq

structure Watch where
  content : Text
  writers : ℕ
  closes : ℕ
  queued : ℕ
  phase : Phase
  callbacks : List Text
  deriving DecidableEq

def Watch.start (content : Text) (writers : ℕ) : Watch := ⟨content, writers, 0, 0, .poll, []⟩

inductive Act where
  | openFile
  | truncate (n : ℕ)
  | write (offset : ℕ) (chunk : Text)
  | close (merged : Bool)
  | poll
  | readEvents
  | openStream
  | readChunk (n : ℕ)
  | getline
  | callback
  deriving DecidableEq

/-- Events that fit into the buffer of one read: 4096 bytes, 16 for each event. -/
def MAX_EVENTS : ℕ := 4096 / 16

def resize (n : ℕ) (content : Text) : Text := content.take n ++ List.replicate (n - content.length) '\x00'

def overwrite (offset : ℕ) (chunk content : Text) : Text :=
  resize offset content ++ chunk ++ content.drop (offset + chunk.length)

def deliver (line : Text) : Phase := if line = [] then .poll else .calling line

/-- What becomes of the line gathered so far when a read of the stream gives `chunk`. -/
def gather (line chunk : Text) : Phase :=
  if chunk = [] then deliver line
  else if '\n' ∈ chunk then deliver (line ++ firstLine chunk)
  else .reading (line ++ chunk)

def step (s : Watch) : Act → Option Watch
  | .openFile => some { s with writers := s.writers + 1 }
  | .truncate n => if 0 < s.writers then some { s with content := resize n s.content } else none
  | .write offset chunk =>
      if 0 < s.writers then some { s with content := overwrite offset chunk s.content } else none
  | .close merged =>
      if 0 < s.writers ∧ (merged → 0 < s.queued) then
        some { s with
          writers := s.writers - 1
          closes := s.closes + 1
          queued := if merged then s.queued else s.queued + 1 }
      else none
  | .poll => if s.phase = .poll ∧ 0 < s.queued then some { s with phase := .woken } else none
  | .readEvents =>
      if s.phase = .woken then some { s with phase := .notified, queued := s.queued - MAX_EVENTS } else none
  | .openStream => if s.phase = .notified then some { s with phase := .reading [] } else none
  | .readChunk n =>
      match s.phase with
      | .reading line =>
          if 0 < n then some { s with phase := gather line ((s.content.drop line.length).take n) } else none
      | _ => none
  | .getline => if s.phase = .reading [] then some { s with phase := deliver (firstLine s.content) } else none
  | .callback =>
      match s.phase with
      | .calling line => some { s with phase := .poll, callbacks := s.callbacks ++ [line] }
      | _ => none

lemma firstLine_of_not_mem {line : Text} (h : '\n' ∉ line) (rest : Text) :
    firstLine (line ++ rest) = line ++ firstLine rest := by
  apply List.takeWhile_append_of_pos
  intro c hc
  simpa using fun he : c = '\n' => h (he ▸ hc)

lemma firstLine_take {n : ℕ} {content : Text} (h : '\n' ∈ content.take n) :
    firstLine (content.take n) = firstLine content := by
  induction content generalizing n with
  | nil => simp at h
  | cons c content ih =>
    cases n with
    | zero => simp at h
    | succ n =>
      rw [List.take_succ_cons] at h ⊢
      by_cases hc : c = '\n'
      · simp [firstLine, hc]
      · have hm : '\n' ∈ content.take n := (List.mem_cons.mp h).resolve_left (Ne.symm hc)
        simpa [firstLine, List.takeWhile_cons, hc] using ih hm

def Current (content : Text) (callbacks : List Text) : Phase → Prop
  | .poll => firstLine content ≠ [] → callbacks.getLast? = some (firstLine content)
  | .reading line => line <+: content ∧ '\n' ∉ line
  | .calling line => line = firstLine content
  | _ => True

lemma deliver_ne_woken (line : Text) : deliver line ≠ .woken := by
  rw [deliver]
  split_ifs <;> simp

lemma gather_ne_woken (line chunk : Text) : gather line chunk ≠ .woken := by
  rw [gather]
  split_ifs
  · exact deliver_ne_woken _
  · exact deliver_ne_woken _
  · simp

lemma current_deliver (content : Text) (callbacks : List Text) :
    Current content callbacks (deliver (firstLine content)) := by
  rw [deliver]
  split_ifs with h
  · exact fun hn => absurd h hn
  · exact rfl

lemma current_gather {content line : Text} {callbacks : List Text} {n : ℕ} (hn : 0 < n)
    (h : Current content callbacks (.reading line)) :
    Current content callbacks (gather line ((content.drop line.length).take n)) := by
  obtain ⟨⟨rest, rfl⟩, hl⟩ := h
  rw [List.drop_left, gather]
  split_ifs with h1 h2
  · have hr : rest = [] := by
      rcases List.take_eq_nil_iff.mp h1 with h0 | hr
      · omega
      · exact hr
    have hf : firstLine (line ++ rest) = line := by
      rw [firstLine_of_not_mem hl, hr, firstLine, List.takeWhile_nil, List.append_nil]
    have hc := current_deliver (line ++ rest) callbacks
    rwa [hf] at hc
  · rw [firstLine_take h2, ← firstLine_of_not_mem hl]
    exact current_deliver _ callbacks
  · refine ⟨List.prefix_append_right_inj line |>.mpr (List.take_prefix n rest), ?_⟩
    simp [hl, h2]

structure Follows (s : Watch) : Prop where
  woken : s.phase = .woken → 0 < s.queued
  current : 0 < s.closes → s.writers = 0 → s.queued = 0 → Current s.content s.callbacks s.phase

lemma follows_start (content : Text) (writers : ℕ) : Follows (.start content writers) where
  woken h := by cases h
  current h := by cases h

lemma follows_step (s : Watch) (a : Act) (t : Watch) (h : Follows s) (ha : step s a = some t) : Follows t := by
  cases a with
  | openFile =>
    cases ha
    exact ⟨h.woken, fun _ hw => by cases hw⟩
  | truncate n =>
    obtain ⟨hw, rfl⟩ : 0 < s.writers ∧ _ = t := by simpa [step] using ha
    exact ⟨h.woken, fun _ hz => absurd hz hw.ne'⟩
  | write offset chunk =>
    obtain ⟨hw, rfl⟩ : 0 < s.writers ∧ _ = t := by simpa [step] using ha
    exact ⟨h.woken, fun _ hz => absurd hz hw.ne'⟩
  | close merged =>
    obtain ⟨⟨hw, hm⟩, rfl⟩ : (0 < s.writers ∧ (merged → 0 < s.queued)) ∧ _ = t := by simpa [step] using ha
    have hq : 0 < if merged then s.queued else s.queued + 1 := by
      cases merged with
      | true => exact hm rfl
      | false => exact Nat.succ_pos _
    exact ⟨fun _ => hq, fun _ _ hz => absurd hz hq.ne'⟩
  | poll =>
    obtain ⟨⟨hp, hq⟩, rfl⟩ : (s.phase = .poll ∧ 0 < s.queued) ∧ _ = t := by simpa [step] using ha
    exact ⟨fun _ => hq, fun _ _ hz => absurd hz hq.ne'⟩
  | readEvents =>
    obtain ⟨hp, rfl⟩ : s.phase = .woken ∧ _ = t := by simpa [step] using ha
    exact ⟨fun hw => (by cases hw), fun _ _ _ => trivial⟩
  | openStream =>
    obtain ⟨hp, rfl⟩ : s.phase = .notified ∧ _ = t := by simpa [step] using ha
    exact ⟨fun hw => (by cases hw), fun _ _ _ => ⟨List.nil_prefix, List.not_mem_nil⟩⟩
  | readChunk n =>
    cases hp : s.phase with
    | reading line =>
      obtain ⟨hn, rfl⟩ : 0 < n ∧ _ = t := by simpa [step, hp] using ha
      refine ⟨fun hw => ?_, fun hc hw hq => ?_⟩
      · exact absurd hw (gather_ne_woken line _)
      · have hcur := h.current hc hw hq
        rw [hp] at hcur
        exact current_gather hn hcur
    | _ => simp [step, hp] at ha
  | getline =>
    obtain ⟨hp, rfl⟩ : s.phase = .reading [] ∧ _ = t := by simpa [step] using ha
    exact ⟨fun hw => absurd hw (deliver_ne_woken _), fun _ _ _ => current_deliver s.content s.callbacks⟩
  | callback =>
    cases hp : s.phase with
    | calling line =>
      obtain rfl : _ = t := by simpa [step, hp] using ha
      refine ⟨fun hw => (by cases hw), fun hc hw hq => ?_⟩
      have hcur := h.current hc hw hq
      rw [hp] at hcur
      obtain rfl : line = firstLine s.content := hcur
      exact fun _ => List.getLast?_concat
    | _ => simp [step, hp] at ha

theorem listener_converges (content : Text) (writers : ℕ) (acts : List Act) (s : Watch)
    (hrun : runs step (.start content writers) acts = some s) (hclosed : 0 < s.closes) (hwriters : s.writers = 0)
    (hqueued : s.queued = 0) (hpoll : s.phase = .poll) (hline : firstLine s.content ≠ []) :
    s.callbacks.getLast? = some (firstLine s.content) := by
  have hf : Follows s := invariant_runs follows_step (follows_start content writers) hrun
  have hc := hf.current hclosed hwriters hqueued
  rw [hpoll] at hc
  exact hc hline

def tornSchedule : List Act :=
  [.openFile, .write 0 ['a', 'b'], .close false, .poll, .readEvents, .openStream, .readChunk 1, .openFile,
    .openFile, .truncate 0, .write 0 ['x', 'y', '\n'], .close false, .close true, .readChunk 1, .readChunk 8,
    .callback, .poll, .readEvents, .openStream, .readChunk 8, .callback]

theorem listener_converges_torn :
    let s : Watch := ⟨['x', 'y', '\n'], 0, 3, 0, .poll, [['a', 'y'], ['x', 'y']]⟩
    runs step (.start [] 0) tornSchedule = some s ∧ s.callbacks.getLast? = some (firstLine s.content) := by
  have hr : runs step (.start [] 0) tornSchedule =
      some ⟨['x', 'y', '\n'], 0, 3, 0, .poll, [['a', 'y'], ['x', 'y']]⟩ := by decide +kernel
  exact ⟨hr, listener_converges [] 0 tornSchedule _ hr (by decide) rfl rfl rfl (by decide)⟩

end PacketFilter.Events
