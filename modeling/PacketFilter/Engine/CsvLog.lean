import PacketFilter.Engine.Printing
import PacketFilter.Library.Tables
import PacketFilter.Logging.AccessLogWriter

/-! The log thread of packetfilter.cpp and its CSV file, beside the `main` that starts and joins it. -/

namespace PacketFilter.Engine

open Library Library.Machines Library.Scanning Library.Tables
open Kernel (PacketLogs)
open Logging (LogEntry Clocks EINTR)

def HEADER : Text := "timestamp,ip,is_passed,bytes".toList

def csvFields (entry : LogEntry) : List Text :=
  [printInt entry.timestamp, inetNtoa entry.ip, printNat entry.isPassed.toNat, printNat entry.bytes.toNat]

def csvLine (entry : LogEntry) : Text := joined ',' (csvFields entry)

inductive LogPhase where
  | unstarted
  | opening
  | creating
  | looping
  | polling
  | polled (err : ℤ)
  | leaving
  | returned
  deriving DecidableEq

inductive MainAt where
  | booting
  | watching
  | reporting (err : ℤ)
  | cleaning (err : ℤ)
  | returned (status : ℤ)
  deriving DecidableEq

structure Session where
  main : MainAt
  exiting : Bool
  thread : LogPhase
  logFile : Option Text
  buffer : List LogEntry
  bufferSize : ℕ
  timeoutMs : ℤ
  lastWriteTime : ℤ
  delivered : List PacketLogs
  deriving DecidableEq

inductive SessionAct where
  | failBoot (err : ℤ)
  | startThread
  | failInotify
  | breakLoop
  | failRewatch
  | signal
  | endLoop
  | report
  | join
  | openFile (opened : Bool)
  | create (created : Bool) (now : ℤ)
  | check
  | deliver (log : PacketLogs) (clocks : Clocks)
  | pollReturns (err : ℤ)
  | afterPoll (clocks : Clocks)
  | finish (clocks : Clocks)
  deriving DecidableEq

namespace Session

def start (bufferSize : ℕ) (timeoutMs : ℤ) : Session :=
  ⟨.booting, false, .unstarted, none, [], bufferSize, timeoutMs, 0, []⟩

def flushBuffer (s : Session) (written : ℤ) : Session :=
  match s.logFile with
  | none => s
  | some text =>
    if s.buffer = [] then s
    else
      { s with
        logFile := some (text ++ lines (s.buffer.map csvLine))
        buffer := []
        lastWriteTime := written }

def timedOut (s : Session) (steady : ℤ) : Bool := s.timeoutMs * 1000000 < steady - s.lastWriteTime

def push (s : Session) (log : PacketLogs) (now : ℤ) : Session :=
  { s with buffer := s.buffer ++ [⟨now, log.ip, log.bytes, log.isPassed⟩] }

def handleLogEvent (s : Session) (log : PacketLogs) (clocks : Clocks) : Session :=
  if s.logFile = none then s
  else
    let s := s.push log clocks.system
    if s.bufferSize ≤ s.buffer.length ∨ s.timedOut clocks.steady then s.flushBuffer clocks.written else s

/-- What the loop does after a poll: the timeout is looked at before the error is. -/
def afterPoll (s : Session) (err : ℤ) (clocks : Clocks) : Session :=
  let s := if s.timedOut clocks.steady ∧ s.buffer ≠ [] then s.flushBuffer clocks.written else s
  { s with thread := if err < 0 ∧ err ≠ -EINTR then .leaving else .looping }

def step (s : Session) : SessionAct → Option Session
  | .failBoot err => if s.main = .booting then some { s with main := .cleaning err } else none
  | .startThread => if s.main = .booting then some { s with main := .watching, thread := .opening } else none
  | .failInotify => if s.main = .watching then some { s with main := .cleaning (-1) } else none
  | .breakLoop => if s.main = .watching then some { s with main := .reporting (-1) } else none
  | .failRewatch => if s.main = .watching then some { s with exiting := true } else none
  -- The handlers are installed after the thread is started: before that a signal ends the process.
  | .signal => if s.thread = .unstarted then none else some { s with exiting := true }
  | .endLoop => if s.main = .watching ∧ s.exiting then some { s with main := .reporting 0 } else none
  | .report =>
      match s.main with
      | .reporting err => some { s with main := .cleaning err }
      | _ => none
  | .join =>
      match s.main with
      | .cleaning err =>
          if s.thread = .unstarted ∨ s.thread = .returned then
            some { s with main := .returned (if 0 < err then err else -err) }
          else none
      | _ => none
  | .openFile opened =>
      if s.thread = .opening then
        if opened then some { s with thread := .creating, logFile := some (HEADER ++ ['\n']) }
        else some { s with thread := .returned }
      else none
  | .create created now =>
      if s.thread = .creating then
        some { s with thread := if created then .looping else .returned, lastWriteTime := now }
      else none
  | .check =>
      if s.thread = .looping then some { s with thread := if s.exiting then .leaving else .polling } else none
  | .deliver log clocks =>
      if s.thread = .polling then
        some { s.handleLogEvent log clocks with delivered := s.delivered ++ [log] }
      else none
  | .pollReturns err => if s.thread = .polling then some { s with thread := .polled err } else none
  | .afterPoll clocks =>
      match s.thread with
      | .polled err => some (s.afterPoll err clocks)
      | _ => none
  | .finish clocks =>
      if s.thread = .leaving then some { s.flushBuffer clocks.written with thread := .returned } else none

end Session

/-- A reader for the file: the header, and on each further line the four fields of a record. -/
def readLine (line : Text) : Option LogEntry :=
  match pieces ',' line with
  | [timestamp, ip, isPassed, bytes] => do
    let timestamp ← integer timestamp
    let ip ← inetPton ip
    let isPassed ← stoul isPassed
    let bytes ← stoul bytes
    return ⟨timestamp, ip, bytes.setWidth 32, isPassed.setWidth 32⟩
  | _ => none

def readCsv (text : Text) : Option (List LogEntry) :=
  match getlines text with
  | header :: rest => if header = HEADER then rest.mapM readLine else none
  | [] => none

section Reading

lemma csvFields_spec {entry : LogEntry} {field : Text} (h : field ∈ csvFields entry) :
    field ≠ [] ∧ ',' ∉ field ∧ '\n' ∉ field := by
  have hnat (n : ℕ) (c : Char) (hc : c.isDigit = false) : c ∉ printNat n := by
    intro hm
    have hd := isDigit_of_mem_toDigits hm
    rw [hc] at hd
    cases hd
  have hip (c : Char) (hc : c.isDigit = false ∧ c ≠ '.') : c ∉ inetNtoa entry.ip :=
    fun hm => ne_of_mem_inetNtoa hm hc rfl
  have hint (c : Char) (hc : c.isDigit = false) (hd : c ≠ '-') : c ∉ printInt entry.timestamp := by
    intro hm
    rcases mem_printInt hm with h | h
    · rw [hc] at h
      cases h
    · exact hd h
  simp only [csvFields, List.mem_cons, List.not_mem_nil, or_false] at h
  rcases h with rfl | rfl | rfl | rfl
  · exact ⟨printInt_ne_nil _, hint _ (by decide) (by decide), hint _ (by decide) (by decide)⟩
  · refine ⟨?_, hip _ (by decide), hip _ (by decide)⟩
    intro hnil
    have hread := inetPton_inetNtoa entry.ip
    rw [hnil] at hread
    simp [inetPton, cString] at hread
  · exact ⟨Nat.toDigits_ne_nil, hnat _ _ (by decide), hnat _ _ (by decide)⟩
  · exact ⟨Nat.toDigits_ne_nil, hnat _ _ (by decide), hnat _ _ (by decide)⟩

lemma stoul_printNat (w : BitVec 32) : (stoul (printNat w.toNat)).map (BitVec.setWidth 32) = some w := by
  have hlt := w.isLt
  rw [printNat, stoul_toDigits (by omega)]
  simp

lemma readLine_csvLine (entry : LogEntry) : readLine (csvLine entry) = some entry := by
  have hpieces : pieces ',' (csvLine entry) = csvFields entry :=
    pieces_joined (fun f hf => ⟨(csvFields_spec hf).1, (csvFields_spec hf).2.1⟩)
  have hpassed := stoul_printNat entry.isPassed
  have hbytes := stoul_printNat entry.bytes
  obtain ⟨p, hp, hpe⟩ := Option.map_eq_some_iff.mp hpassed
  obtain ⟨b, hb, hbe⟩ := Option.map_eq_some_iff.mp hbytes
  rw [readLine, hpieces]
  simp only [csvFields, integer_printInt, inetPton_inetNtoa, hp, hb, Option.bind_eq_bind, Option.bind_some,
    Option.pure_def, hpe, hbe]

lemma newline_not_mem_csvLine (entry : LogEntry) : '\n' ∉ csvLine entry := by
  have hf : ∀ f ∈ csvFields entry, '\n' ∉ f := fun f hf => (csvFields_spec hf).2.2
  simp only [csvFields, List.mem_cons, List.not_mem_nil, or_false, forall_eq_or_imp, forall_eq] at hf
  simp [csvLine, csvFields, joined, hf]

lemma readCsv_lines (entries : List LogEntry) :
    readCsv (HEADER ++ ['\n'] ++ lines (entries.map csvLine)) = some entries := by
  have htext : HEADER ++ ['\n'] ++ lines (entries.map csvLine) = lines (HEADER :: entries.map csvLine) := by
    simp [lines]
  have hlines : getlines (lines (HEADER :: entries.map csvLine)) = HEADER :: entries.map csvLine := by
    apply getlines_lines
    intro t ht
    rcases List.mem_cons.mp ht with rfl | ht
    · decide
    · obtain ⟨entry, -, rfl⟩ := List.mem_map.mp ht
      exact newline_not_mem_csvLine entry
  rw [htext, readCsv, hlines]
  simp only [if_true, mapM_read readLine_csvLine, List.map_id']

end Reading

def LogPhase.Outside : LogPhase → Prop
  | .unstarted | .opening | .creating | .returned => True
  | _ => False

def LogPhase.Unopened : LogPhase → Prop
  | .unstarted | .opening | .returned => True
  | _ => False

def LogPhase.Opened : LogPhase → Prop
  | .unstarted | .opening => False
  | _ => True

def MainAt.Beside : MainAt → LogPhase → Prop
  | .booting, thread => thread = .unstarted
  | .returned _, thread => thread = .unstarted ∨ thread = .returned
  | _, _ => True

structure Session.Accounts (size : ℕ) (s : Session) (entries : List LogEntry) : Prop where
  file : s.logFile = some (HEADER ++ ['\n'] ++ lines (entries.map csvLine))
  delivered : (entries ++ s.buffer).map LogEntry.record = s.delivered
  bounded : s.buffer = [] ∨ s.buffer.length < size

structure Session.Sound (size : ℕ) (s : Session) : Prop where
  sized : s.bufferSize = size
  beside : s.main.Beside s.thread
  empty : s.thread.Outside → s.buffer = []
  log : (s.thread.Unopened ∧ s.logFile = none ∧ s.delivered = []) ∨
    (s.thread.Opened ∧ ∃ entries, s.Accounts size entries)

section Accounting

variable {size : ℕ} {s t : Session} {entries : List LogEntry} {a : SessionAct}

open Session

lemma start_sound (size : ℕ) (timeoutMs : ℤ) : (start size timeoutMs).Sound size :=
  ⟨rfl, rfl, fun _ => rfl, .inl ⟨trivial, rfl, rfl⟩⟩

lemma Session.Sound.beside_thread (h : s.Sound size) (main : MainAt) (hmain : main.Beside s.thread)
    (exiting : Bool) :
    { s with main := main, exiting := exiting }.Sound size := by
  refine ⟨h.sized, hmain, h.empty, h.log.imp id ?_⟩
  rintro ⟨hopened, entries, hacc⟩
  exact ⟨hopened, entries, hacc.file, hacc.delivered, hacc.bounded⟩

lemma Session.Sound.move (h : s.Sound size) (hacc : s.Accounts size entries) {thread : LogPhase} {last : ℤ}
    (hmain : s.main.Beside thread) (hopened : thread.Opened) (hempty : thread.Outside → s.buffer = []) :
    { s with thread := thread, lastWriteTime := last }.Sound size :=
  ⟨h.sized, hmain, hempty, .inr ⟨hopened, entries, hacc.file, hacc.delivered, hacc.bounded⟩⟩

lemma Session.Sound.accounts (h : s.Sound size) (hthread : ¬ s.thread.Unopened) :
    ∃ entries, s.Accounts size entries := by
  rcases h.log with ⟨hun, -⟩ | ⟨-, hacc⟩
  · exact absurd hun hthread
  · exact hacc

lemma beside_of_running {main : MainAt} {thread : LogPhase} (h : main.Beside thread) (hun : ¬ thread.Unopened)
    (next : LogPhase) : main.Beside next := by
  cases main with
  | booting =>
    simp only [MainAt.Beside] at h
    subst h
    exact absurd trivial hun
  | returned status =>
    simp only [MainAt.Beside] at h
    rcases h with rfl | rfl <;> exact absurd trivial hun
  | watching => trivial
  | reporting err => trivial
  | cleaning err => trivial

lemma flushBuffer_fields (s : Session) (written : ℤ) :
    (s.flushBuffer written).main = s.main ∧ (s.flushBuffer written).thread = s.thread ∧
      (s.flushBuffer written).bufferSize = s.bufferSize ∧ (s.flushBuffer written).delivered = s.delivered := by
  unfold Session.flushBuffer
  split
  · exact ⟨rfl, rfl, rfl, rfl⟩
  · split_ifs <;> exact ⟨rfl, rfl, rfl, rfl⟩

lemma flushBuffer_spec {text : Text} (hfile : s.logFile = some text) (written : ℤ) :
    (s.flushBuffer written).logFile = some (text ++ lines (s.buffer.map csvLine)) ∧
      (s.flushBuffer written).buffer = [] := by
  unfold Session.flushBuffer
  rw [hfile]
  split_ifs with hb
  · simp only [hb, hfile, List.map_nil, and_true]
    simp [lines]
  · exact ⟨rfl, rfl⟩

lemma flushBuffer_accounts (hfile : s.logFile = some (HEADER ++ ['\n'] ++ lines (entries.map csvLine)))
    (hdelivered : (entries ++ s.buffer).map LogEntry.record = s.delivered) (written : ℤ) :
    (s.flushBuffer written).Accounts size (entries ++ s.buffer) := by
  obtain ⟨hf, hb⟩ := flushBuffer_spec hfile written
  refine ⟨?_, ?_, .inl hb⟩
  · rw [hf, List.map_append, lines_append, List.append_assoc]
  · rw [hb, List.append_nil, (flushBuffer_fields s written).2.2.2, hdelivered]

lemma handleLogEvent_accounts (hsize : s.bufferSize = size) (h : s.Accounts size entries) (log : PacketLogs)
    (clocks : Clocks) :
    ∃ entries', { s.handleLogEvent log clocks with delivered := s.delivered ++ [log] }.Accounts size entries' := by
  -- The records in their order, before it is known whether the buffer is written out.
  have hpushed : (entries ++ (s.push log clocks.system).buffer).map LogEntry.record = s.delivered ++ [log] := by
    simp only [push, ← List.append_assoc, List.map_append, ← h.delivered]
    rfl
  have hfile : (s.push log clocks.system).logFile = some (HEADER ++ ['\n'] ++ lines (entries.map csvLine)) :=
    h.file
  unfold Session.handleLogEvent
  rw [if_neg (by rw [h.file]; simp)]
  simp only
  split_ifs with hfull
  · obtain ⟨hf, hb⟩ := flushBuffer_spec hfile clocks.written
    refine ⟨entries ++ (s.push log clocks.system).buffer, ?_, ?_, .inl hb⟩
    · rw [List.map_append, lines_append, ← List.append_assoc]
      exact hf
    · rw [hb, List.append_nil, hpushed]
  · refine ⟨entries, hfile, hpushed, .inr ?_⟩
    rw [← hsize]
    exact not_le.mp (not_or.mp hfull).1

lemma handleLogEvent_fields (s : Session) (log : PacketLogs) (clocks : Clocks) :
    (s.handleLogEvent log clocks).main = s.main ∧ (s.handleLogEvent log clocks).thread = s.thread ∧
      (s.handleLogEvent log clocks).bufferSize = s.bufferSize := by
  obtain ⟨hmain, hthread, hsize, -⟩ := flushBuffer_fields (s.push log clocks.system) clocks.written
  simp only [Session.handleLogEvent]
  split_ifs
  · exact ⟨rfl, rfl, rfl⟩
  · exact ⟨hmain, hthread, hsize⟩
  · exact ⟨rfl, rfl, rfl⟩

lemma deliver_sound (h : s.Sound size) (hthread : s.thread = .polling) (log : PacketLogs) (clocks : Clocks) :
    { s.handleLogEvent log clocks with delivered := s.delivered ++ [log] }.Sound size := by
  obtain ⟨entries, hacc⟩ := h.accounts (by rw [hthread]; exact not_false)
  obtain ⟨hmain, hth, hsize⟩ := handleLogEvent_fields s log clocks
  have hpolling := hth.trans hthread
  refine ⟨hsize.trans h.sized, ?_, fun hout => ?_, .inr ⟨?_, handleLogEvent_accounts h.sized hacc log clocks⟩⟩
  · show (s.handleLogEvent log clocks).main.Beside (s.handleLogEvent log clocks).thread
    rw [hmain, hth]
    exact h.beside
  · change (s.handleLogEvent log clocks).thread.Outside at hout
    rw [hpolling] at hout
    exact hout.elim
  · show (s.handleLogEvent log clocks).thread.Opened
    rw [hpolling]
    trivial

lemma flushBuffer_sound (h : s.Sound size) (hrun : ¬ s.thread.Unopened) (written : ℤ) :
    (s.flushBuffer written).Sound size ∧ (s.flushBuffer written).buffer = [] := by
  obtain ⟨entries, hacc⟩ := h.accounts hrun
  obtain ⟨hmain, hthread, hsize, -⟩ := flushBuffer_fields s written
  have hb := (flushBuffer_spec hacc.file written).2
  have hflushed : (s.flushBuffer written).Accounts size _ := flushBuffer_accounts hacc.file hacc.delivered written
  refine ⟨⟨hsize.trans h.sized, ?_, fun _ => hb, .inr ⟨?_, _, hflushed⟩⟩, hb⟩
  · rw [hmain, hthread]
    exact h.beside
  · rw [hthread]
    rcases h.log with ⟨hun, -⟩ | ⟨hopened, -⟩
    · exact absurd hun hrun
    · exact hopened

lemma afterPoll_sound {err : ℤ} (h : s.Sound size) (hthread : s.thread = .polled err) (clocks : Clocks) :
    (s.afterPoll err clocks).Sound size := by
  have hrun : ¬ s.thread.Unopened := by
    rw [hthread]
    exact not_false
  -- Both targets are inside the loop, so the buffer is free to hold records.
  have hmoved (u : Session) (hu : u.Sound size) (hut : u.thread = s.thread) :
      { u with thread := if err < 0 ∧ err ≠ -EINTR then .leaving else .looping }.Sound size := by
    have hurun : ¬ u.thread.Unopened := by rwa [hut]
    obtain ⟨entries, hacc⟩ := hu.accounts hurun
    refine hu.move hacc (beside_of_running hu.beside hurun _) ?_ ?_
    · split_ifs <;> trivial
    · split_ifs <;> exact False.elim
  by_cases hflush : s.timedOut clocks.steady ∧ s.buffer ≠ []
  · rw [Session.afterPoll, if_pos hflush]
    exact hmoved _ (flushBuffer_sound h hrun clocks.written).1 (flushBuffer_fields s clocks.written).2.1
  · rw [Session.afterPoll, if_neg hflush]
    exact hmoved s h rfl

lemma step_sound (h : s.Sound size) (hs : step s a = some t) : t.Sound size := by
  cases a with
  | failBoot err =>
    obtain ⟨-, rfl⟩ := by simpa [step] using hs
    exact h.beside_thread (.cleaning err) trivial s.exiting
  | startThread =>
    obtain ⟨hmain, rfl⟩ := by simpa [step] using hs
    have hthread := h.beside
    rw [hmain] at hthread
    simp only [MainAt.Beside] at hthread
    rcases h.log with ⟨-, hfile, hdelivered⟩ | ⟨hopened, -⟩
    · exact ⟨h.sized, trivial, fun _ => h.empty (by rw [hthread]; trivial), .inl ⟨trivial, hfile, hdelivered⟩⟩
    · rw [hthread] at hopened
      exact hopened.elim
  | failInotify =>
    obtain ⟨-, rfl⟩ := by simpa [step] using hs
    exact h.beside_thread (.cleaning (-1)) trivial s.exiting
  | breakLoop =>
    obtain ⟨-, rfl⟩ := by simpa [step] using hs
    exact h.beside_thread (.reporting (-1)) trivial s.exiting
  | failRewatch =>
    obtain ⟨-, rfl⟩ := by simpa [step] using hs
    exact h.beside_thread _ h.beside true
  | signal =>
    obtain ⟨-, rfl⟩ := by simpa [step] using hs
    exact h.beside_thread _ h.beside true
  | endLoop =>
    obtain ⟨-, rfl⟩ := by simpa [step] using hs
    exact h.beside_thread (.reporting 0) trivial s.exiting
  | report =>
    simp only [step] at hs
    split at hs
    · next err hmain =>
      cases hs
      exact h.beside_thread (.cleaning err) trivial s.exiting
    · cases hs
  | join =>
    simp only [step] at hs
    split at hs
    · next err hmain =>
      obtain ⟨hthread, rfl⟩ := by simpa using hs
      exact h.beside_thread (.returned _) hthread s.exiting
    · cases hs
  | openFile opened =>
    simp only [step, Option.ite_none_right_eq_some] at hs
    obtain ⟨hthread, hs⟩ := hs
    have hempty : s.buffer = [] := h.empty (by rw [hthread]; trivial)
    rcases h.log with ⟨-, hfile, hdelivered⟩ | ⟨hopened, -⟩
    · have hbeside (next : LogPhase) : s.main.Beside next := by
        have hb := h.beside
        rw [hthread] at hb
        cases hm : s.main <;> simp_all [MainAt.Beside]
      split_ifs at hs <;> cases hs
      · have hacc : { s with thread := .creating, logFile := some (HEADER ++ ['\n']) }.Accounts size [] :=
          ⟨by simp [lines], by simp [hempty, hdelivered], .inl hempty⟩
        exact ⟨h.sized, hbeside _, fun _ => hempty, .inr ⟨trivial, [], hacc⟩⟩
      · exact ⟨h.sized, hbeside _, fun _ => hempty, .inl ⟨trivial, hfile, hdelivered⟩⟩
    · rw [hthread] at hopened
      exact hopened.elim
  | create created now =>
    obtain ⟨hthread, rfl⟩ := by simpa [step] using hs
    have hrun : ¬ s.thread.Unopened := by rw [hthread]; exact not_false
    obtain ⟨entries, hacc⟩ := h.accounts hrun
    refine h.move hacc (beside_of_running h.beside hrun _) ?_ (fun _ => h.empty (by rw [hthread]; trivial))
    split_ifs <;> trivial
  | check =>
    obtain ⟨hthread, rfl⟩ := by simpa [step] using hs
    have hrun : ¬ s.thread.Unopened := by rw [hthread]; exact not_false
    obtain ⟨entries, hacc⟩ := h.accounts hrun
    refine h.move hacc (beside_of_running h.beside hrun _) ?_ ?_
    · split_ifs <;> trivial
    · split_ifs <;> exact False.elim
  | deliver log clocks =>
    obtain ⟨hthread, rfl⟩ := by simpa [step] using hs
    exact deliver_sound h hthread log clocks
  | pollReturns err =>
    obtain ⟨hthread, rfl⟩ := by simpa [step] using hs
    have hrun : ¬ s.thread.Unopened := by rw [hthread]; exact not_false
    obtain ⟨entries, hacc⟩ := h.accounts hrun
    exact h.move hacc (beside_of_running h.beside hrun _) trivial False.elim
  | afterPoll clocks =>
    simp only [step] at hs
    split at hs
    · next err hthread =>
      cases hs
      exact afterPoll_sound h hthread clocks
    · cases hs
  | finish clocks =>
    obtain ⟨hthread, rfl⟩ := by simpa [step] using hs
    have hrun : ¬ s.thread.Unopened := by rw [hthread]; exact not_false
    obtain ⟨hflushed, hb⟩ := flushBuffer_sound h hrun clocks.written
    have hfrun : ¬ (s.flushBuffer clocks.written).thread.Unopened := by
      rwa [(flushBuffer_fields s clocks.written).2.1]
    obtain ⟨entries, hacc⟩ := hflushed.accounts hfrun
    exact hflushed.move hacc (beside_of_running hflushed.beside hfrun _) trivial (fun _ => hb)

end Accounting

/-- However the two threads interleave: the file reads back as the records delivered so far, less those of the
buffer, which stays below its size, and is empty when `main` has returned. -/
theorem csv_log_reads_back {bufferSize : ℕ} {timeoutMs : ℤ} {acts : List SessionAct} {s : Session}
    (h : runs Session.step (.start bufferSize timeoutMs) acts = some s) :
    (s.logFile = none ∧ s.delivered = []) ∨
      ∃ written, s.logFile.bind readCsv = some written ∧
        (written ++ s.buffer).map LogEntry.record = s.delivered ∧
        (s.buffer = [] ∨ s.buffer.length < bufferSize) ∧
        ((∃ status, s.main = .returned status) → s.buffer = []) := by
  have hsound : s.Sound bufferSize :=
    invariant_runs (fun _ _ _ hs ht => step_sound hs ht) (start_sound bufferSize timeoutMs) h
  rcases hsound.log with ⟨-, hfile, hdelivered⟩ | ⟨hopened, entries, hacc⟩
  · exact .inl ⟨hfile, hdelivered⟩
  · refine .inr ⟨entries, ?_, hacc.delivered, hacc.bounded, ?_⟩
    · rw [hacc.file]
      exact readCsv_lines entries
    · rintro ⟨status, hmain⟩
      have hbeside := hsound.beside
      rw [hmain] at hbeside
      rcases hbeside with hthread | hthread
      · rw [hthread] at hopened
        exact hopened.elim
      · exact hsound.empty (by rw [hthread]; trivial)

def opened : List SessionAct := [.startThread, .openFile true, .create true 0, .check]

def logged : List SessionAct :=
  opened ++ [.deliver ⟨0x0100007F#32, 60#32, 1#32⟩ ⟨7, 1, 2⟩, .deliver ⟨0x0200000A#32, 1500#32, 0#32⟩ ⟨8, 3, 4⟩,
    .deliver ⟨0x0300000A#32, 40#32, 1#32⟩ ⟨-9, 5, 6⟩, .signal, .pollReturns 3, .endLoop,
      .afterPoll ⟨10, 7, 8⟩, .check,
    .report, .finish ⟨11, 9, 10⟩, .join]

theorem csv_log_reads_back_full :
    ∃ s, runs Session.step (.start 2 5000) logged = some s ∧ s.main = .returned 0 ∧ s.delivered.length = 3 ∧
      ∃ written, s.logFile.bind readCsv = some written ∧ written.map LogEntry.record = s.delivered := by
  have hrun := runs_reached Session.step (.start 2 5000) logged (by decide +kernel)
  refine ⟨_, hrun, by decide +kernel, by decide +kernel, ?_⟩
  rcases csv_log_reads_back hrun with ⟨hnone, -⟩ | ⟨written, hread, hrecords, -, hempty⟩
  · exact absurd hnone (by decide +kernel)
  · rw [hempty ⟨0, by decide +kernel⟩, List.append_nil] at hrecords
    exact ⟨written, hread, hrecords⟩

end PacketFilter.Engine
