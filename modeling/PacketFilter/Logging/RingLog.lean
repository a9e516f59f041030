import PacketFilter.Logging.RingOrder
import PacketFilter.Logging.Shutdown

/-! From the bytes in the ring buffer to the access log: `ring_buffer__poll` under `AccessLogWriter::process`. -/

namespace PacketFilter.Logging

open Library.Bytes Library.Machines Library.Rings Kernel

/-- `struct packet_logs` in memory; the address stands in network order. -/
def logBytes (log : PacketLogs) : List (BitVec 8) :=
  (wordBytes log.ip).reverse ++ (wordBytes log.bytes ++ wordBytes log.isPassed)

def readLog (sample : List (BitVec 8)) : PacketLogs :=
  let b : Memory := fun i => sample.getD i 0
  ⟨b 0 ++ b 1 ++ b 2 ++ b 3, word b 4, word b 8⟩

lemma readLog_logBytes (log : PacketLogs) : readLog (logBytes log) = log := by
  obtain ⟨ip, bytes, isPassed⟩ := log
  simp only [readLog, logBytes, wordBytes, word, List.reverse_cons, List.reverse_nil, List.nil_append,
    List.cons_append, List.getD_cons_zero, List.getD_cons_succ]
  rw [joined_eq, joined_eq, joined_eq]

def handleSample (w : Writer) (sample : List (BitVec 8)) (clocks : Clocks) : Writer × ℤ :=
  (w.handleLogEvent (readLog sample) clocks, 0)

def INT_MAX : ℕ := 2 ^ 31 - 1

def RingAct.produces {ι : Type} : RingAct ι → Bool
  | .reserve _ _ | .fill _ _ _ | .commit _ _ => true
  | .call _ | .advance _ => false

def Act.outside : Act → Bool
  | .deliver _ _ | .pollReturns _ => false
  | _ => true

inductive LogAct where
  | produce (a : RingAct Clocks)
  | work (a : Act)
  | epollWait (cnt : ℤ)
  | advance (clocks : Clocks)
  | pollReturns

namespace Channel

/-- The ring of packet_ringbuf, 2^24 bytes, and the worker of AccessLogWriter as the context of its callback. -/
def logStep (s : Channel Writer) : LogAct → Option (Channel Writer)
  | .produce a => if a.produces then s.step 24 handleSample a else none
  | .work a => if a.outside then (Logging.step s.ctx a).map (fun w => { s with ctx := w }) else none
  | .epollWait cnt =>
      if s.consumer = .idle ∧ s.ctx.phase = .polling then
        if 0 < cnt then some { s with consumer := .loadConsumer INT_MAX }
        else (Logging.step s.ctx (.pollReturns cnt)).map (fun w => { s with ctx := w })
      else none
  | .advance clocks => s.advance 24 handleSample clocks
  | .pollReturns =>
      match s.consumer with
      | .returned res =>
          (Logging.step s.ctx (.pollReturns (min res INT_MAX))).map
            (fun w => { s with ctx := w, consumer := .idle })
      | _ => none

end Channel

structure Channel.Logs (s : Channel Writer) : Prop where
  consistent : s.Consistent 24
  sound : s.ctx.Sound DEFAULT_LOG_ACCESS_BUFFER_SIZE
  delivered : s.ctx.delivered = s.delivered.map readLog
  polling : s.consumer ≠ .idle → s.ctx.phase = .polling

section Logs

variable {s t : Channel Writer}

lemma logs_start (data : Memory) (lastWrite : ℤ) :
    (Channel.start data
      (Writer.new DEFAULT_LOG_ACCESS_BUFFER_SIZE DEFAULT_LOG_ACCESS_TIMEOUT_MS lastWrite false)).Logs where
  consistent := consistent_start data _
  sound := sound_new (by decide) _ _ _
  delivered := rfl
  polling h := absurd rfl h

lemma Produces.logs (h : Produces 24 s t) (hs : s.Logs) : t.Logs where
  consistent := h.consistent hs.consistent
  sound := h.ctx ▸ hs.sound
  delivered := by rw [h.ctx, h.delivered, hs.delivered]
  polling hc := by
    rw [h.consumer] at hc
    rw [h.ctx]
    exact hs.polling hc

lemma consistent_of_eq {σ τ : Type} {order : ℕ} {s : Channel σ} {t : Channel τ} (hs : s.Consistent order)
    (hdata : t.data = s.data) (hcons : t.consumerPos = s.consumerPos) (hprod : t.producerPos = s.producerPos)
    (hentries : t.entries = s.entries) (hdelivered : t.delivered = s.delivered)
    (hconsumer : t.consumer = s.consumer) :
    t.Consistent order := by
  obtain ⟨k, hl, hp⟩ := hs
  refine ⟨k, ?_, ?_⟩
  · rw [Channel.LaidOut, hdata, hcons, hprod, hentries]
    exact hl
  · rw [hentries, hdelivered, hconsumer]
    exact hp

lemma phase_outside {w v : Writer} {a : Act} (ha : a.outside) (hw : w.phase = .polling) (h : step w a = some v) :
    v.phase = .polling := by
  cases a with
  | stop =>
    cases h
    exact hw
  | deliver log clocks => cases ha
  | pollReturns err => cases ha
  | _ => simp [step, hw] at h

lemma delivers_outside {a : Act} (ha : a.outside) : a.delivers = [] := by
  cases a with
  | deliver log clocks => cases ha
  | _ => rfl

lemma delivered_pollReturns {w v : Writer} {err : ℤ} (h : step w (.pollReturns err) = some v) :
    v.delivered = w.delivered := by
  simpa [Act.delivers] using delivered_step h

lemma logs_work {a : Act} (ha : a.outside) {w : Writer} (hs : s.Logs) (h : step s.ctx a = some w) :
    ({ s with ctx := w } : Channel Writer).Logs where
  consistent := consistent_of_eq hs.consistent rfl rfl rfl rfl rfl rfl
  sound := sound_step _ _ _ _ hs.sound h
  delivered := by
    have hd := delivered_step h
    rw [delivers_outside ha, List.append_nil] at hd
    exact hd.trans hs.delivered
  polling hc := phase_outside ha (hs.polling hc) h

lemma ctx_advance {clocks : Clocks} (h : s.advance 24 handleSample clocks = some t) :
    (t.ctx = s.ctx ∧ t.delivered = s.delivered) ∨
      ∃ sample, t.ctx = s.ctx.handleLogEvent (readLog sample) clocks ∧ t.delivered = s.delivered ++ [sample] := by
  cases hc : s.consumer with
  | idle => simp [Channel.advance, hc] at h
  | returned res => simp [Channel.advance, hc] at h
  | callback n cnt consPos prodPos lenPtr len =>
    obtain rfl : _ = t := by simpa [Channel.advance, hc] using h
    exact .inr ⟨_, rfl, rfl⟩
  | _ =>
    obtain rfl : _ = t := by simpa [Channel.advance, hc] using h
    exact .inl ⟨rfl, rfl⟩

lemma consumer_advance {clocks : Clocks} (h : s.advance 24 handleSample clocks = some t) : s.consumer ≠ .idle := by
  intro hc
  simp [Channel.advance, hc] at h

lemma logs_advance {clocks : Clocks} (hs : s.Logs) (h : s.advance 24 handleSample clocks = some t) : t.Logs := by
  have hpolling := hs.polling (consumer_advance h)
  have hconsistent := consistent_advance hs.consistent h
  rcases ctx_advance h with ⟨hctx, hd⟩ | ⟨sample, hctx, hd⟩
  · exact ⟨hconsistent, hctx ▸ hs.sound, by rw [hctx, hd, hs.delivered], fun _ => hctx ▸ hpolling⟩
  · refine ⟨hconsistent, ?_, ?_, fun _ => ?_⟩
    · rw [hctx]
      exact hs.sound.handleLogEvent hpolling _ _
    · rw [hctx, hd, delivered_handleLogEvent, hs.delivered, List.map_append]
      rfl
    · rw [hctx, phase_handleLogEvent, hpolling]

lemma logs_step (s : Channel Writer) (a : LogAct) (t : Channel Writer) (hs : s.Logs) (h : s.logStep a = some t) :
    t.Logs := by
  cases a with
  | produce a =>
    simp only [Channel.logStep, Option.ite_none_right_eq_some] at h
    obtain ⟨ha, h⟩ := h
    cases a with
    | reserve pad len => exact (produces_reserve h).logs hs
    | fill i k bytes => exact (produces_fill h).logs hs
    | commit i discard => exact (produces_commit h).logs hs
    | call n => cases ha
    | advance clocks => cases ha
  | work a =>
    simp only [Channel.logStep, Option.ite_none_right_eq_some, Option.map_eq_some_iff] at h
    obtain ⟨ha, w, hw, rfl⟩ := h
    exact logs_work ha hs hw
  | epollWait cnt =>
    simp only [Channel.logStep, Option.ite_none_right_eq_some] at h
    obtain ⟨⟨hidle, hphase⟩, h⟩ := h
    split_ifs at h with hready
    · cases h
      obtain ⟨k, hl, hp⟩ := hs.consistent
      rw [hidle] at hp
      exact ⟨⟨k, hl, hp⟩, hs.sound, hs.delivered, fun _ => hphase⟩
    · obtain ⟨w, hw, rfl⟩ := Option.map_eq_some_iff.mp h
      exact ⟨consistent_of_eq hs.consistent rfl rfl rfl rfl rfl rfl, sound_step _ _ _ _ hs.sound hw,
        (delivered_pollReturns hw).trans hs.delivered, fun hc => absurd hidle hc⟩
  | advance clocks => exact logs_advance hs h
  | pollReturns =>
    cases hc : s.consumer with
    | returned res =>
      obtain ⟨w, hw, rfl⟩ : ∃ w, step s.ctx (.pollReturns (min res INT_MAX)) = some w ∧ _ = t := by
        simpa [Channel.logStep, hc] using h
      obtain ⟨k, hl, hp⟩ := hs.consistent
      rw [hc] at hp
      exact ⟨⟨k, hl, hp⟩, sound_step _ _ _ _ hs.sound hw, (delivered_pollReturns hw).trans hs.delivered,
        fun hidle => absurd rfl hidle⟩
    | _ => simp [Channel.logStep, hc] at h

end Logs

end PacketFilter.Logging
