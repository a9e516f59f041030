import PacketFilter.Engine.Reload
import PacketFilter.Library.Machines

/-! AccessLogWriter.cpp: a thread that takes records from the ring buffer and logs them in batches. -/

namespace PacketFilter.Logging

open Library.Machines Library.Scanning Kernel

structure LogEntry where
  timestamp : ℤ
  ip : Addr
  bytes : BitVec 32
  isPassed : BitVec 32
  deriving DecidableEq

structure LogLine where
  timestamp : ℤ
  ipStr : Text
  bytes : BitVec 32
  verdict : Text
  deriving DecidableEq

def verdictOf (isPassed : BitVec 32) : Text := (if isPassed ≠ 0 then "PASS" else "DROP").toList

def LogEntry.line (entry : LogEntry) : LogLine :=
  ⟨entry.timestamp, Engine.inetNtoa entry.ip, entry.bytes, verdictOf entry.isPassed⟩

structure BufferContext where
  buffer : List LogEntry
  bufferSize : ℕ
  timeoutMs : ℤ
  lastWrite : ℤ
  deriving DecidableEq

/-- The clocks that one step reads: the system clock, and the steady clock before and after a flush. -/
structure Clocks where
  system : ℤ
  steady : ℤ
  written : ℤ
  deriving DecidableEq

inductive Phase where
  | opening
  | looping
  | polling
  | polled
  | leaving
  | returned (created : Bool)
  deriving DecidableEq

structure Writer where
  ctx : BufferContext
  logged : List LogLine
  exiting : Bool
  phase : Phase
  delivered : List PacketLogs
  deriving DecidableEq

namespace Writer

def new (bufferSize : ℕ) (timeoutMs lastWrite : ℤ) (exiting : Bool) : Writer :=
  ⟨⟨[], bufferSize, timeoutMs, lastWrite⟩, [], exiting, .opening, []⟩

def flush (w : Writer) (written : ℤ) : Writer :=
  if w.ctx.buffer = [] then w
  else
    { w with
      ctx := { w.ctx with buffer := [], lastWrite := written }
      logged := w.logged ++ w.ctx.buffer.map LogEntry.line }

def timedOut (w : Writer) (steady : ℤ) : Bool := w.ctx.timeoutMs * 1000000 < steady - w.ctx.lastWrite

def push (w : Writer) (log : PacketLogs) (system : ℤ) : Writer :=
  { w with
    ctx := { w.ctx with buffer := w.ctx.buffer ++ [⟨system, log.ip, log.bytes, log.isPassed⟩] }
    delivered := w.delivered ++ [log] }

def handleLogEvent (w : Writer) (log : PacketLogs) (clocks : Clocks) : Writer :=
  let w := w.push log clocks.system
  let full := decide (w.ctx.bufferSize ≤ w.ctx.buffer.length)
  let timeout := w.timedOut clocks.steady
  if full || timeout then w.flush clocks.written else w

end Writer

def EINTR : ℤ := 4

inductive Act where
  | create (created : Bool)
  | stop
  | check
  | deliver (log : PacketLogs) (clocks : Clocks)
  | pollReturns (err : ℤ)
  | timeoutCheck (clocks : Clocks)
  | finish (clocks : Clocks)
  deriving DecidableEq

def step (w : Writer) : Act → Option Writer
  | .create created =>
      if w.phase = .opening then some { w with phase := if created then .looping else .returned false } else none
  | .stop => some { w with exiting := true }
  | .check =>
      if w.phase = .looping then some { w with phase := if w.exiting then .leaving else .polling } else none
  | .deliver log clocks => if w.phase = .polling then some (w.handleLogEvent log clocks) else none
  | .pollReturns err =>
      if w.phase = .polling then some { w with phase := if err < 0 ∧ err ≠ -EINTR then .leaving else .polled }
      else none
  | .timeoutCheck clocks =>
      if w.phase = .polled then
        let w := if w.timedOut clocks.steady ∧ w.ctx.buffer ≠ [] then w.flush clocks.written else w
        some { w with phase := .looping }
      else none
  | .finish clocks =>
      if w.phase = .leaving then some { w.flush clocks.written with phase := .returned true } else none

structure Shown where
  ipStr : Text
  bytes : BitVec 32
  verdict : Text
  deriving DecidableEq

def LogLine.shown (line : LogLine) : Shown := ⟨line.ipStr, line.bytes, line.verdict⟩

def shown (log : PacketLogs) : Shown := ⟨Engine.inetNtoa log.ip, log.bytes, verdictOf log.isPassed⟩

def LogEntry.record (entry : LogEntry) : PacketLogs := ⟨entry.ip, entry.bytes, entry.isPassed⟩

structure Writer.Accounts (w : Writer) : Prop where
  logged : w.logged.map LogLine.shown = (w.delivered.take w.logged.length).map shown
  held : w.ctx.buffer.map LogEntry.record = w.delivered.drop w.logged.length

lemma shown_line (entry : LogEntry) : entry.line.shown = shown entry.record := rfl

section Flushing

variable {w : Writer}

lemma Writer.Accounts.length_le (h : w.Accounts) : w.logged.length ≤ w.delivered.length := by
  have hl := congrArg List.length h.logged
  simp only [List.length_map, List.length_take] at hl
  omega

lemma Writer.Accounts.push (h : w.Accounts) (log : PacketLogs) (system : ℤ) : (w.push log system).Accounts where
  logged := by
    simp only [Writer.push]
    rw [List.take_append_of_le_length h.length_le]
    exact h.logged
  held := by
    simp only [Writer.push, List.map_append, h.held]
    rw [List.drop_append_of_le_length h.length_le]
    rfl

lemma Writer.Accounts.all (h : w.Accounts) :
    (w.logged ++ w.ctx.buffer.map LogEntry.line).map LogLine.shown = w.delivered.map shown := by
  have hheld : (w.ctx.buffer.map LogEntry.line).map LogLine.shown =
      (w.ctx.buffer.map LogEntry.record).map shown := by
    rw [List.map_map, List.map_map]
    exact List.map_congr_left (fun entry _ => shown_line entry)
  rw [List.map_append, hheld, h.logged, h.held, ← List.map_append, List.take_append_drop]

lemma Writer.Accounts.flush (h : w.Accounts) (written : ℤ) : (w.flush written).Accounts := by
  rw [Writer.flush]
  split_ifs with hb
  · exact h
  · have hlength : (w.logged ++ w.ctx.buffer.map LogEntry.line).length = w.delivered.length := by
      simpa using congrArg List.length h.all
    constructor
    · simp only [hlength, List.take_length]
      exact h.all
    · simp only [hlength, List.drop_length, List.map_nil]

lemma buffer_flush (w : Writer) (written : ℤ) : (w.flush written).ctx.buffer = [] := by
  rw [Writer.flush]
  split_ifs with hb
  · exact hb
  · rfl

@[simp] lemma bufferSize_flush (w : Writer) (written : ℤ) : (w.flush written).ctx.bufferSize =
  w.ctx.bufferSize := by
  rw [Writer.flush]
  split_ifs <;> rfl

@[simp] lemma delivered_flush (w : Writer) (written : ℤ) : (w.flush written).delivered = w.delivered := by
  rw [Writer.flush]
  split_ifs <;> rfl

@[simp] lemma phase_flush (w : Writer) (written : ℤ) : (w.flush written).phase = w.phase := by
  rw [Writer.flush]
  split_ifs <;> rfl

@[simp] lemma exiting_flush (w : Writer) (written : ℤ) : (w.flush written).exiting = w.exiting := by
  rw [Writer.flush]
  split_ifs <;> rfl

end Flushing

section Handling

variable (w : Writer) (log : PacketLogs) (clocks : Clocks)

lemma handleLogEvent_eq :
    w.handleLogEvent log clocks = (w.push log clocks.system).flush clocks.written ∨
      w.handleLogEvent log clocks = w.push log clocks.system ∧ w.ctx.buffer.length + 1 < w.ctx.bufferSize := by
  have hbuffer : (w.push log clocks.system).ctx.buffer.length = w.ctx.buffer.length + 1 := by simp [Writer.push]
  have hsize : (w.push log clocks.system).ctx.bufferSize = w.ctx.bufferSize := rfl
  simp only [Writer.handleLogEvent, hbuffer, hsize]
  by_cases hflush : (decide (w.ctx.bufferSize ≤ w.ctx.buffer.length + 1) ||
      (w.push log clocks.system).timedOut clocks.steady) = true
  · exact .inl (if_pos hflush)
  · refine .inr ⟨if_neg hflush, ?_⟩
    have hfull : ¬ w.ctx.bufferSize ≤ w.ctx.buffer.length + 1 := by
      intro hle
      exact hflush (by simp [hle])
    omega

lemma delivered_handleLogEvent : (w.handleLogEvent log clocks).delivered = w.delivered ++ [log] := by
  rcases handleLogEvent_eq w log clocks with h | ⟨h, -⟩
  · rw [h, delivered_flush]
    rfl
  · rw [h]
    rfl

lemma phase_handleLogEvent : (w.handleLogEvent log clocks).phase = w.phase := by
  rcases handleLogEvent_eq w log clocks with h | ⟨h, -⟩
  · rw [h, phase_flush]
    rfl
  · rw [h]
    rfl

end Handling

structure Writer.Sound (size : ℕ) (w : Writer) : Prop where
  accounts : w.Accounts
  bufferSize : w.ctx.bufferSize = size
  bounded : w.ctx.buffer.length < size
  emptied : w.phase = .returned true → w.ctx.buffer = []

lemma sound_new {size : ℕ} (hsize : 1 ≤ size) (timeoutMs lastWrite : ℤ) (exiting : Bool) :
    (Writer.new size timeoutMs lastWrite exiting).Sound size :=
  ⟨⟨rfl, rfl⟩, rfl, hsize, fun _ => rfl⟩

section Sound

variable {size : ℕ} {w : Writer}

lemma Writer.Sound.goTo (h : w.Sound size) {phase : Phase} (hp : phase ≠ .returned true) :
    ({ w with phase } : Writer).Sound size :=
  ⟨⟨h.accounts.logged, h.accounts.held⟩, h.bufferSize, h.bounded, fun hr => absurd hr hp⟩

lemma Writer.Sound.flush (h : w.Sound size) (written : ℤ) : (w.flush written).Sound size := by
  refine ⟨h.accounts.flush written, (bufferSize_flush w written).trans h.bufferSize, ?_,
    fun _ => buffer_flush w written⟩
  rw [buffer_flush]
  exact Nat.lt_of_le_of_lt (Nat.zero_le _) h.bounded

lemma Writer.Sound.handleLogEvent (h : w.Sound size) (hp : w.phase = .polling) (log : PacketLogs)
    (clocks : Clocks) :
    (w.handleLogEvent log clocks).Sound size := by
  have hphase : (w.handleLogEvent log clocks).phase ≠ .returned true := by
    rw [phase_handleLogEvent, hp]
    simp
  rcases handleLogEvent_eq w log clocks with he | ⟨he, hlt⟩
  · rw [he] at hphase ⊢
    refine ⟨(h.accounts.push log _).flush _, ?_, ?_, fun hr => absurd hr hphase⟩
    · rw [bufferSize_flush]
      exact h.bufferSize
    · rw [buffer_flush]
      exact Nat.lt_of_le_of_lt (Nat.zero_le _) h.bounded
  · rw [he] at hphase ⊢
    refine ⟨h.accounts.push log _, h.bufferSize, ?_, fun hr => absurd hr hphase⟩
    rw [h.bufferSize] at hlt
    simpa [Writer.push] using hlt

end Sound

lemma sound_step (size : ℕ) (w : Writer) (a : Act) (t : Writer) (h : w.Sound size) (ha : step w a = some t) :
    t.Sound size := by
  cases a with
  | create created =>
    obtain ⟨-, rfl⟩ : w.phase = .opening ∧ _ = t := by simpa [step] using ha
    exact h.goTo (by cases created <;> simp)
  | stop =>
    cases ha
    exact ⟨⟨h.accounts.logged, h.accounts.held⟩, h.bufferSize, h.bounded, h.emptied⟩
  | check =>
    obtain ⟨-, rfl⟩ : w.phase = .looping ∧ _ = t := by simpa [step] using ha
    exact h.goTo (by cases w.exiting <;> simp)
  | deliver log clocks =>
    obtain ⟨hp, rfl⟩ : w.phase = .polling ∧ _ = t := by simpa [step] using ha
    exact h.handleLogEvent hp log clocks
  | pollReturns err =>
    obtain ⟨-, rfl⟩ : w.phase = .polling ∧ _ = t := by simpa [step] using ha
    exact h.goTo (by split_ifs <;> simp)
  | timeoutCheck clocks =>
    obtain ⟨-, rfl⟩ : w.phase = .polled ∧ _ = t := by simpa [step] using ha
    split_ifs
    · exact (h.flush _).goTo (by simp)
    · exact h.goTo (by simp)
  | finish clocks =>
    have hf := h.flush clocks.written
    simp only [step] at ha
    split_ifs at ha
    cases ha
    exact ⟨⟨hf.accounts.logged, hf.accounts.held⟩, hf.bufferSize, hf.bounded, fun _ => buffer_flush w _⟩

end PacketFilter.Logging
