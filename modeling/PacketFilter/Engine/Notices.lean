import PacketFilter.Library.Bytes

/-! The loop in `main` of packetfilter.cpp that goes through the inotify events of one read. -/

namespace PacketFilter.Engine

open Library.Bytes

def IN_MODIFY : BitVec 32 := 0x00000002
def IN_CLOSE_WRITE : BitVec 32 := 0x00000008
def IN_DELETE_SELF : BitVec 32 := 0x00000400
def IN_MOVE_SELF : BitVec 32 := 0x00000800

def NAME_MAX : ℕ := 255

def INOTIFY_EVENT_SIZE : ℕ := 16

def EVENT_SIZE : ℕ := INOTIFY_EVENT_SIZE + NAME_MAX + 1

structure InotifyEvent where
  wd : BitVec 32
  mask : BitVec 32
  cookie : BitVec 32
  name : List (BitVec 8)
  fits : name.length < 2 ^ 32

namespace InotifyEvent

def bytes (e : InotifyEvent) : List (BitVec 8) :=
  wordBytes e.wd ++ (wordBytes e.mask ++ (wordBytes e.cookie ++
    (wordBytes (BitVec.ofNat 32 e.name.length) ++ e.name)))

lemma length_bytes (e : InotifyEvent) : e.bytes.length = INOTIFY_EVENT_SIZE + e.name.length := by
  simp [bytes, INOTIFY_EVENT_SIZE]
  omega

def starts : ℕ → List InotifyEvent → List ℕ
  | _, [] => []
  | p, e :: events => p :: starts (p + e.bytes.length) events

end InotifyEvent

/-- What `read` leaves in the buffer: the records, and whatever was there before behind them. -/
structure Buffer (events : List InotifyEvent) where
  memory : Memory
  filled : Holds memory 0 (events.flatMap InotifyEvent.bytes)

def bytesRead (events : List InotifyEvent) : ℕ := (events.flatMap InotifyEvent.bytes).length

inductive Action
  | rewatch
  | update
  deriving DecidableEq

def Gone (mask : BitVec 32) : Prop := mask &&& (IN_DELETE_SELF ||| IN_MOVE_SELF) ≠ 0

def Written (mask : BitVec 32) : Prop := mask &&& (IN_MODIFY ||| IN_CLOSE_WRITE) ≠ 0

instance (mask : BitVec 32) : Decidable (Gone mask) := inferInstanceAs (Decidable (_ ≠ _))

instance (mask : BitVec 32) : Decidable (Written mask) := inferInstanceAs (Decidable (_ ≠ _))

def action (mask : BitVec 32) : Option Action :=
  if Gone mask then some .rewatch else if Written mask then some .update else none

structure Visit where
  offset : ℕ
  action : Option Action
  deriving DecidableEq

/-- The visits of the loop; `inotifyAddWatch p` is what the call made at offset `p` returns. -/
def eventLoop (b : Memory) (len : ℕ) (inotifyAddWatch : ℕ → ℤ) (p : ℕ) : List Visit :=
  if p < len then
    ⟨p, action (word b (p + 4))⟩ ::
      if action (word b (p + 4)) = some .rewatch ∧ inotifyAddWatch p < 0 then []
      else eventLoop b len inotifyAddWatch (p + (EVENT_SIZE + (word b (p + 12)).toNat))
  else []
termination_by len - p
decreasing_by
  simp only [EVENT_SIZE]
  omega

def Answered (e : InotifyEvent) (v : Visit) : Prop :=
  (Written e.mask → v.action = some .update) ∧ (Gone e.mask → v.action = some .rewatch)

/-- One visit for each record, at its start, that does what the record asks for. -/
def Handled (events : List InotifyEvent) (visits : List Visit) : Prop :=
  visits.map Visit.offset = InotifyEvent.starts 0 events ∧ List.Forall₂ Answered events visits

section Loop

variable {b : Memory} {len p : ℕ} {inotifyAddWatch : ℕ → ℤ}

lemma eventLoop_of_le (h : len ≤ p) : eventLoop b len inotifyAddWatch p = [] := by
  rw [eventLoop, if_neg (by omega)]

lemma offsets_second {q : ℕ} {qs : List ℕ}
    (h : (eventLoop b len inotifyAddWatch p).map Visit.offset = p :: q :: qs) :
    q = p + (EVENT_SIZE + (word b (p + 12)).toNat) := by
  rw [eventLoop] at h
  split_ifs at h with hp hw
  · cases h
  · set r := p + (EVENT_SIZE + (word b (p + 12)).toNat) with hr
    obtain ⟨-, h⟩ := List.cons.inj h
    by_cases hlt : r < len
    · rw [eventLoop, if_pos hlt] at h
      exact (List.cons.inj h).1.symm
    · rw [eventLoop_of_le (by omega)] at h
      cases h
  · cases h

end Loop

section Records

variable {e : InotifyEvent} {b : Memory} {p : ℕ}

lemma mask_read (h : Holds b p e.bytes) : word b (p + 4) = e.mask := h.right.left.word_eq

lemma len_read (h : Holds b p e.bytes) : (word b (p + 12)).toNat = e.name.length := by
  have hw : word b (p + 4 + 4 + 4) = BitVec.ofNat 32 e.name.length := h.right.right.right.left.word_eq
  rw [show p + 12 = p + 4 + 4 + 4 by omega, hw, BitVec.toNat_ofNat, Nat.mod_eq_of_lt e.fits]

lemma Buffer.first {events : List InotifyEvent} (buffer : Buffer (e :: events)) :
    Holds buffer.memory 0 e.bytes := by
  have hfilled : Holds buffer.memory 0 (e.bytes ++ events.flatMap InotifyEvent.bytes) := buffer.filled
  exact hfilled.left

lemma bytesRead_cons (e : InotifyEvent) (events : List InotifyEvent) :
    bytesRead (e :: events) = INOTIFY_EVENT_SIZE + e.name.length + bytesRead events := by
  simp [bytesRead, e.length_bytes]

lemma eventLoop_first {events : List InotifyEvent} (buffer : Buffer (e :: events)) (inotifyAddWatch : ℕ → ℤ)
    (h : bytesRead (e :: events) ≤ EVENT_SIZE + e.name.length) :
    eventLoop buffer.memory (bytesRead (e :: events)) inotifyAddWatch 0 = [⟨0, action e.mask⟩] := by
  have hpos : 0 < bytesRead (e :: events) := by
    rw [bytesRead_cons, INOTIFY_EVENT_SIZE]
    omega
  have hrest : eventLoop buffer.memory (bytesRead (e :: events)) inotifyAddWatch
      (0 + (EVENT_SIZE + (word buffer.memory (0 + 12)).toNat)) = [] := by
    apply eventLoop_of_le
    rw [len_read buffer.first]
    omega
  rw [eventLoop, if_pos hpos, hrest, mask_read buffer.first, ite_self]

lemma offsets_ne_starts {e f : InotifyEvent} {events : List InotifyEvent} (buffer : Buffer (e :: f :: events))
    (inotifyAddWatch : ℕ → ℤ) (len : ℕ) :
    (eventLoop buffer.memory len inotifyAddWatch 0).map Visit.offset ≠
      InotifyEvent.starts 0 (e :: f :: events) := by
  intro h
  have hsecond := offsets_second h
  rw [len_read buffer.first, e.length_bytes, EVENT_SIZE] at hsecond
  omega

end Records

lemma answered_action_iff {e : InotifyEvent} {p : ℕ} :
    Answered e ⟨p, action e.mask⟩ ↔ ¬ (Written e.mask ∧ Gone e.mask) := by
  by_cases hg : Gone e.mask
  · simp [Answered, action, hg]
  · by_cases hw : Written e.mask
    · simp [Answered, action, hg, hw]
    · simp [Answered, hg, hw]

theorem notices_handled_iff (events : List InotifyEvent) (buffer : Buffer events) (inotifyAddWatch : ℕ → ℤ) :
    Handled events (eventLoop buffer.memory (bytesRead events) inotifyAddWatch 0) ↔
      events.length ≤ 1 ∧ ∀ e ∈ events, ¬ (Written e.mask ∧ Gone e.mask) := by
  match events, buffer with
  | [], buffer =>
    rw [eventLoop_of_le (by simp [bytesRead])]
    simp [Handled, InotifyEvent.starts]
  | [e], buffer =>
    rw [eventLoop_first _ _ (by simp [bytesRead, e.length_bytes, EVENT_SIZE]; omega)]
    simp [Handled, InotifyEvent.starts, answered_action_iff]
  | e :: f :: events, buffer =>
    refine iff_of_false ?_ (by simp)
    rintro ⟨hoffsets, -⟩
    exact offsets_ne_starts buffer inotifyAddWatch _ hoffsets

def written : InotifyEvent := ⟨1, IN_MODIFY, 0, [], by decide⟩

def closed : InotifyEvent := ⟨1, IN_CLOSE_WRITE, 0, [], by decide⟩

def writtenClosed : Buffer [written, closed] where
  memory i := ([written, closed].flatMap InotifyEvent.bytes).getD i 0
  filled i hi := by
    simp only [Nat.zero_add, List.getD_eq_getElem?_getD, List.getElem?_eq_getElem hi, Option.getD_some]

theorem second_notice_skipped :
    eventLoop writtenClosed.memory (bytesRead [written, closed]) (fun _ => 1) 0 = [⟨0, some .update⟩] ∧
    ¬ Handled [written, closed] (eventLoop writtenClosed.memory (bytesRead [written, closed]) (fun _ => 1) 0) := by
  refine ⟨eventLoop_first writtenClosed _ (by decide), ?_⟩
  rintro ⟨hoffsets, -⟩
  exact offsets_ne_starts writtenClosed _ _ hoffsets

end PacketFilter.Engine
