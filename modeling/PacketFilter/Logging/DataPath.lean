import PacketFilter.Kernel.Accounting
import PacketFilter.Logging.RingLog

/-! From the packet to the line of the access log: `xdp_filter` writes its records into the bytes of the ring. -/

namespace PacketFilter.Logging

open Library.Bytes Library.Machines Library.Rings
open Kernel (Frame Settings Maps PacketLogs Input runAll records record? RECORD_SIZE)

variable {N : ℕ}

def LOG_SIZE : ℕ := 12

/-- The events of the kernel's maps so far, the ring in memory with the worker, and the record in hand of a packet
that has its slot, with the number of words that are written. -/
structure Path (N : ℕ) where
  events : List (Kernel.Event N)
  ring : Channel Writer
  slot : Option (PacketLogs × ℕ)

inductive PathAct (N : ℕ) where
  | configure (settings : Settings N)
  | packet (f : Frame) (now : BitVec 64) (pad : BitVec 32)
  | write
  | submit
  | worker (a : LogAct)

namespace Path

def start (data : Memory) (lastWrite : ℤ) : Path N :=
  ⟨[], .start data (.new DEFAULT_LOG_ACCESS_BUFFER_SIZE DEFAULT_LOG_ACCESS_TIMEOUT_MS lastWrite false), none⟩

def maps (s : Path N) : Maps N := runAll .zeroed s.events

def last (s : Path N) : ℕ := s.ring.entries.length - 1

/-- Packets come one after the other. What the worker takes from the ring is what the maps see as consumed. -/
def step (s : Path N) : PathAct N → Option (Path N)
  | .configure settings =>
      if s.slot = none then some { s with events := s.events ++ [.configure settings] } else none
  | .packet f now pad =>
      if s.slot = none then
        let reserved := s.ring.reserve 24 pad LOG_SIZE
        let e : Kernel.Event N := .packet f ⟨now, reserved.isNone⟩
        some
          { events := s.events ++ [e]
            ring := if f.IsIpv4 then reserved.getD s.ring else s.ring
            slot := (record? s.maps e).map (·, 0) }
      else none
  | .write =>
      match s.slot with
      | some (log, w) =>
          if w < 3 then
            (s.ring.fill 24 s.last (4 * w) (((logBytes log).drop (4 * w)).take 4)).map
              fun ring => { s with ring := ring, slot := some (log, w + 1) }
          else none
      | none => none
  | .submit =>
      match s.slot with
      | some (_, 3) => (s.ring.commit 24 s.last false).map fun ring => { s with ring := ring, slot := none }
      | _ => none
  | .worker (.produce _) => none
  | .worker a =>
      (s.ring.logStep a).map fun ring =>
        { s with
          events := s.events ++ [.consume ((ring.consumerPos - s.ring.consumerPos) / RECORD_SIZE)]
          ring := ring }

end Path

def Entry.Carries (log : PacketLogs) (e : Entry) : Prop := e.status = .submitted ∧ e.payload = logBytes log

structure Entry.Holding (log : PacketLogs) (w : ℕ) (e : Entry) : Prop where
  busy : e.status = .busy
  length : e.payload.length = LOG_SIZE
  written : e.payload.take (4 * w) = (logBytes log).take (4 * w)

def Tallies (log : List PacketLogs) (entries : List Entry) : Option (PacketLogs × ℕ) → Prop
  | none => List.Forall₂ Entry.Carries log entries
  | some (r, w) => ∃ before e done, log = before ++ [r] ∧ entries = done ++ [e] ∧
      List.Forall₂ Entry.Carries before done ∧ e.Holding r w ∧ w ≤ 3

structure Path.Refines (s : Path N) : Prop where
  logs : s.ring.Logs
  tallies : Tallies s.maps.packetRingbuf.submitted s.ring.entries s.slot
  consumed : s.ring.consumerPos = RECORD_SIZE * s.maps.packetRingbuf.consumed

section Widths

lemma length_logBytes (log : PacketLogs) : (logBytes log).length = LOG_SIZE := by
  simp [logBytes, LOG_SIZE]

lemma Entry.Carries.length {log : PacketLogs} {e : Entry} (h : e.Carries log) : e.payload.length = LOG_SIZE := by
  rw [h.2, length_logBytes]

lemma Tallies.lengths {log : List PacketLogs} {entries : List Entry} {slot : Option (PacketLogs × ℕ)}
    (h : Tallies log entries slot) : ∀ e ∈ entries, e.payload.length = LOG_SIZE := by
  have hdone {log : List PacketLogs} {entries : List Entry} (h : List.Forall₂ Entry.Carries log entries) :
      ∀ e ∈ entries, e.payload.length = LOG_SIZE := by
    induction h with
    | nil => nofun
    | cons hc _ ih => exact List.forall_mem_cons.mpr ⟨hc.length, ih⟩
  cases slot with
  | none => exact hdone h
  | some slot =>
    obtain ⟨before, e, done, -, rfl, hb, he, -⟩ := h
    intro f hf
    rcases List.mem_append.mp hf with hf | hf
    · exact hdone hb f hf
    · rw [List.mem_singleton.mp hf]
      exact he.length

lemma Tallies.length_eq {log : List PacketLogs} {entries : List Entry} {slot : Option (PacketLogs × ℕ)}
    (h : Tallies log entries slot) : entries.length = log.length := by
  cases slot with
  | none => exact (List.Forall₂.length_eq h).symm
  | some slot =>
    obtain ⟨before, e, done, rfl, rfl, hb, -, -⟩ := h
    simp [hb.length_eq]

lemma width_log {e : Entry} (h : e.payload.length = LOG_SIZE) : e.width = RECORD_SIZE := by
  rw [Entry.width, h]
  rfl

lemma position_log {es : List Entry} (h : ∀ e ∈ es, e.payload.length = LOG_SIZE) {k : ℕ} (hk : k ≤ es.length) :
    position es k = RECORD_SIZE * k := by
  induction k with
  | zero => rfl
  | succ k ih =>
    have he : es[k]? = some es[k] := List.getElem?_eq_getElem (by omega)
    rw [position_succ he, ih (by omega), width_log (h _ (List.getElem_mem _)), Nat.mul_succ]

end Widths

section Refinement

variable {s t : Path N}

lemma reserved_maps (s : Path N) : s.maps.packetRingbuf.reserved = s.maps.packetRingbuf.submitted.length := by
  have hacc : Kernel.Accounts s.maps (records .zeroed s.events) :=
    Kernel.accounts_runAll Kernel.accounts_zeroed s.events
  rw [hacc.reserved, hacc.submitted]

lemma Path.Refines.positions (h : s.Refines) :
    s.ring.producerPos = RECORD_SIZE * s.maps.packetRingbuf.submitted.length ∧
      s.maps.packetRingbuf.consumed ≤ s.maps.packetRingbuf.submitted.length := by
  obtain ⟨k, hl, -⟩ := h.logs.consistent
  have hlengths := h.tallies.lengths
  have hlen := h.tallies.length_eq
  have hcons := h.consumed
  rw [hl.consumer, position_log hlengths hl.le, Nat.mul_right_inj (by decide)] at hcons
  refine ⟨?_, ?_⟩
  · rw [hl.producer, position_log hlengths le_rfl, hlen]
  · rw [← hcons, ← hlen]
    exact hl.le

lemma width_fresh (ring : Channel Writer) (pad : BitVec 32) (h : LOG_SIZE < 2 ^ 30) :
    (ring.fresh 24 pad LOG_SIZE h).width = RECORD_SIZE := width_log (length_bytesAt _ _ _)

lemma reserve_log (ring : Channel Writer) (pad : BitVec 32) :
    (ring.reserve 24 pad LOG_SIZE).isSome ↔ ring.producerPos + RECORD_SIZE - ring.consumerPos ≤ 2 ^ 24 - 1 := by
  rw [Channel.reserve, dif_pos (by decide), width_fresh]
  split_ifs with hroom
  · exact iff_of_true rfl hroom
  · exact iff_of_false (by simp) hroom

lemma Path.Refines.hasRoom_iff (h : s.Refines) (pad : BitVec 32) :
    s.maps.packetRingbuf.HasRoom ↔ (s.ring.reserve 24 pad LOG_SIZE).isSome := by
  obtain ⟨hprod, hle⟩ := h.positions
  rw [reserve_log, hprod, h.consumed, Kernel.Ringbuf.HasRoom, reserved_maps, Kernel.RINGBUF_SIZE, RECORD_SIZE]
  omega

lemma maps_append (s : Path N) (e : Kernel.Event N) (ring : Channel Writer) (slot : Option (PacketLogs × ℕ)) :
    (⟨s.events ++ [e], ring, slot⟩ : Path N).maps = Kernel.step s.maps e := by
  rw [Path.maps, Kernel.runAll_append]
  rfl

lemma submitted_step (m : Maps N) (e : Kernel.Event N) :
    (Kernel.step m e).packetRingbuf.submitted = m.packetRingbuf.submitted ++ (record? m e).toList := by
  cases e with
  | configure settings => simp [Kernel.step, record?]
  | consume n => simp [Kernel.step, record?, Kernel.Ringbuf.consume]
  | packet f inp =>
    rw [Kernel.step_packet, record?, Kernel.run_xdpFilter]
    split_ifs <;> simp [Maps.filtered, Kernel.Ringbuf.submit, Kernel.Ringbuf.reserve, Frame.log]

lemma consumed_packet (m : Maps N) (f : Frame) (inp : Input) :
    (Kernel.step m (.packet f inp)).packetRingbuf.consumed = m.packetRingbuf.consumed := by
  rw [Kernel.step_packet]
  split_ifs <;> rfl

lemma refines_start (data : Memory) (lastWrite : ℤ) : (Path.start data lastWrite : Path N).Refines :=
  ⟨logs_start data lastWrite, List.Forall₂.nil, rfl⟩

lemma refines_configure (h : s.Refines) (settings : Settings N) :
    (⟨s.events ++ [.configure settings], s.ring, s.slot⟩ : Path N).Refines := by
  refine ⟨h.logs, ?_, ?_⟩
  · rw [maps_append]
    exact h.tallies
  · rw [maps_append]
    exact h.consumed

lemma refines_unlogged (h : s.Refines) (hslot : s.slot = none) {f : Frame} {inp : Input}
    (hnone : record? s.maps (.packet f inp) = none) :
    (⟨s.events ++ [.packet f inp], s.ring, none⟩ : Path N).Refines := by
  have htallies := h.tallies
  rw [hslot] at htallies
  refine ⟨h.logs, ?_, ?_⟩
  · rw [maps_append, submitted_step, hnone, Option.toList_none, List.append_nil]
    exact htallies
  · rw [maps_append, consumed_packet]
    exact h.consumed

lemma refines_reserved (h : s.Refines) (hslot : s.slot = none) {f : Frame} {inp : Input} {log : PacketLogs}
    {pad : BitVec 32} {ring : Channel Writer} (hlog : record? s.maps (.packet f inp) = some log)
    (hring : s.ring.reserve 24 pad LOG_SIZE = some ring) :
    (⟨s.events ++ [.packet f inp], ring, some (log, 0)⟩ : Path N).Refines := by
  have htallies := h.tallies
  rw [hslot] at htallies
  have hproduces := produces_reserve hring
  refine ⟨hproduces.logs h.logs, ?_, ?_⟩
  · rw [maps_append, submitted_step, hlog]
    rw [Channel.reserve, dif_pos (by decide)] at hring
    obtain ⟨-, rfl⟩ := by simpa using hring
    exact ⟨_, _, _, rfl, rfl, htallies, ⟨rfl, length_bytesAt _ _ _, rfl⟩, Nat.zero_le 3⟩
  · rw [maps_append, consumed_packet, ← h.consumed]
    exact hproduces.consumerPos

lemma refines_packet (h : s.Refines) (hslot : s.slot = none) (f : Frame) (now : BitVec 64) (pad : BitVec 32) :
    let reserved := s.ring.reserve 24 pad LOG_SIZE
    (⟨s.events ++ [.packet f ⟨now, reserved.isNone⟩], if f.IsIpv4 then reserved.getD s.ring else s.ring,
      (record? s.maps (.packet f ⟨now, reserved.isNone⟩)).map (·, 0)⟩ : Path N).Refines := by
  intro reserved
  by_cases hip : f.IsIpv4
  · rw [if_pos hip]
    cases hres : reserved with
    | none =>
      have hnone : record? s.maps (.packet f ⟨now, true⟩) = none := by
        rw [record?, if_neg]
        rintro ⟨-, hrefused, -⟩
        cases hrefused
      rw [Option.isNone_none, hnone, Option.getD_none, Option.map_none]
      exact refines_unlogged h hslot hnone
    | some ring =>
      have hroom : s.maps.packetRingbuf.HasRoom :=
        (h.hasRoom_iff pad).mpr (Option.isSome_iff_exists.mpr ⟨ring, hres⟩)
      have hsome : record? s.maps (.packet f ⟨now, false⟩) = some _ := if_pos ⟨hip, rfl, hroom⟩
      rw [Option.isNone_some, hsome, Option.getD_some, Option.map_some]
      exact refines_reserved h hslot hsome hres
  · have hnone (inp : Input) : record? s.maps (.packet f inp) = none := if_neg (fun hc => hip hc.1)
    rw [if_neg hip, hnone, Option.map_none]
    exact refines_unlogged h hslot (hnone _)

lemma getElem?_last (done : List Entry) (e : Entry) : (done ++ [e])[(done ++ [e]).length - 1]? = some e := by simp

lemma set_last (done : List Entry) (e f : Entry) :
    (done ++ [e]).set ((done ++ [e]).length - 1) f = done ++ [f] := by
  simp

lemma Entry.Holding.fill {log : PacketLogs} {w : ℕ} {e : Entry} (h : e.Holding log w) (hw : w < 3)
    (hfits : 4 * w + (((logBytes log).drop (4 * w)).take 4).length ≤ e.payload.length) :
    (e.fill (4 * w) (((logBytes log).drop (4 * w)).take 4) hfits).Holding log (w + 1) := by
  have hlog := length_logBytes log
  have he := h.length
  have hword : (((logBytes log).drop (4 * w)).take 4).length = 4 := by
    rw [List.length_take, List.length_drop, hlog, LOG_SIZE]
    omega
  have htake : (e.payload.take (4 * w)).length = 4 * w := by
    rw [List.length_take, he, LOG_SIZE]
    omega
  refine ⟨h.busy, ?_, ?_⟩
  · rw [← he]
    simp only [Entry.fill, List.length_append, List.length_drop, htake, hword]
    rw [he, LOG_SIZE]
    omega
  · have hsplit : 4 * (w + 1) = (e.payload.take (4 * w) ++ ((logBytes log).drop (4 * w)).take 4).length := by
      rw [List.length_append, htake, hword]
      omega
    show List.take (4 * (w + 1)) (e.payload.take (4 * w) ++ (((logBytes log).drop (4 * w)).take 4 ++ _)) = _
    rw [← List.append_assoc, List.take_left' hsplit.symm, h.written, Nat.mul_succ, List.take_add]

lemma entries_fill {ring ring' : Channel Writer} {i k : ℕ} {bytes : List (BitVec 8)} {e : Entry}
    (h : ring.fill 24 i k bytes = some ring') (he : ring.entries[i]? = some e) :
    ∃ hfits, ring'.entries = ring.entries.set i (e.fill k bytes hfits) := by
  simp only [Channel.fill, he, Option.dite_none_right_eq_some, Option.some.injEq] at h
  obtain ⟨⟨-, hfits⟩, rfl⟩ := h
  exact ⟨hfits, rfl⟩

lemma entries_commit {ring ring' : Channel Writer} {i : ℕ} {discard : Bool} {e : Entry}
    (h : ring.commit 24 i discard = some ring') (he : ring.entries[i]? = some e) :
    ring'.entries = ring.entries.set i (e.settle discard) := by
  simp only [Channel.commit, he, Option.ite_none_right_eq_some, Option.some.injEq] at h
  obtain ⟨-, rfl⟩ := h
  rfl

lemma refines_write (h : s.Refines) {log : PacketLogs} {w : ℕ} (hslot : s.slot = some (log, w)) (hw : w < 3)
    {ring : Channel Writer}
    (hring : s.ring.fill 24 s.last (4 * w) (((logBytes log).drop (4 * w)).take 4) = some ring) :
    ({ s with ring := ring, slot := some (log, w + 1) } : Path N).Refines := by
  have htallies := h.tallies
  rw [hslot] at htallies
  obtain ⟨before, e, done, hsubmitted, hentries, hdone, hholding, -⟩ := htallies
  have hlast : s.ring.entries[s.last]? = some e := by
    rw [Path.last, hentries]
    exact getElem?_last done e
  have hproduces := produces_fill hring
  obtain ⟨hfits, hset⟩ := entries_fill hring hlast
  rw [Path.last, hentries, set_last] at hset
  exact ⟨hproduces.logs h.logs, ⟨before, _, done, hsubmitted, hset, hdone, hholding.fill hw hfits, hw⟩,
    hproduces.consumerPos.trans h.consumed⟩

lemma refines_submit (h : s.Refines) {log : PacketLogs} (hslot : s.slot = some (log, 3)) {ring : Channel Writer}
    (hring : s.ring.commit 24 s.last false = some ring) :
    ({ s with ring := ring, slot := none } : Path N).Refines := by
  have htallies := h.tallies
  rw [hslot] at htallies
  obtain ⟨before, e, done, hsubmitted, hentries, hdone, hholding, -⟩ := htallies
  have hlast : s.ring.entries[s.last]? = some e := by
    rw [Path.last, hentries]
    exact getElem?_last done e
  have hproduces := produces_commit hring
  have hset := entries_commit hring hlast
  rw [Path.last, hentries, set_last] at hset
  have hpayload : e.payload = logBytes log := by
    have hwritten := hholding.written
    have hsize : LOG_SIZE = 4 * 3 := rfl
    rwa [← hsize, List.take_of_length_le hholding.length.le,
      List.take_of_length_le (length_logBytes log).le] at hwritten
  have hcarries : (e.settle false).Carries log := ⟨rfl, hpayload⟩
  have htallied : List.Forall₂ Entry.Carries s.maps.packetRingbuf.submitted ring.entries := by
    rw [hsubmitted, hset]
    exact List.rel_append hdone (.cons hcarries .nil)
  exact ⟨hproduces.logs h.logs, htallied, hproduces.consumerPos.trans h.consumed⟩

lemma consumerPos_advance {ring ring' : Channel Writer} {clocks : Clocks} (hc : ring.Consistent 24)
    (h : ring.advance 24 handleSample clocks = some ring') : ring.consumerPos ≤ ring'.consumerPos := by
  obtain ⟨k, hl, hp⟩ := hc
  cases hcons : ring.consumer with
  | idle => simp [Channel.advance, hcons] at h
  | returned res => simp [Channel.advance, hcons] at h
  | store n cnt consPos prodPos err =>
    rw [hcons] at hp
    obtain ⟨-, -, e, he, -, rfl⟩ := hp
    obtain rfl : _ = ring' := by simpa [Channel.advance, hcons] using h
    rw [hl.consumer]
    exact position_le _ (Nat.le_succ k)
  | _ =>
    obtain rfl : _ = ring' := by simpa [Channel.advance, hcons] using h
    exact le_rfl

lemma logStep_keeps {ring ring' : Channel Writer} {a : LogAct} (ha : ∀ b, a ≠ .produce b) (hs : ring.Logs)
    (h : ring.logStep a = some ring') : ring'.entries = ring.entries ∧ ring.consumerPos ≤ ring'.consumerPos := by
  cases a with
  | produce b => exact absurd rfl (ha b)
  | work a =>
    simp only [Channel.logStep, Option.ite_none_right_eq_some, Option.map_eq_some_iff] at h
    obtain ⟨-, w, -, rfl⟩ := h
    exact ⟨rfl, le_rfl⟩
  | epollWait cnt =>
    simp only [Channel.logStep, Option.ite_none_right_eq_some] at h
    obtain ⟨-, h⟩ := h
    split_ifs at h
    · cases h
      exact ⟨rfl, le_rfl⟩
    · obtain ⟨w, -, rfl⟩ := Option.map_eq_some_iff.mp h
      exact ⟨rfl, le_rfl⟩
  | advance clocks => exact ⟨entries_advance h, consumerPos_advance hs.consistent h⟩
  | pollReturns =>
    simp only [Channel.logStep] at h
    split at h
    · obtain ⟨w, -, rfl⟩ := Option.map_eq_some_iff.mp h
      exact ⟨rfl, le_rfl⟩
    · cases h

lemma refines_worker (h : s.Refines) {a : LogAct} (ha : ∀ b, a ≠ .produce b) {ring : Channel Writer}
    (hring : s.ring.logStep a = some ring) :
    (⟨s.events ++ [.consume ((ring.consumerPos - s.ring.consumerPos) / RECORD_SIZE)], ring, s.slot⟩ :
      Path N).Refines := by
  have hlogs := logs_step s.ring a ring h.logs hring
  obtain ⟨hentries, hle⟩ := logStep_keeps ha h.logs hring
  have htallies : Tallies s.maps.packetRingbuf.submitted ring.entries s.slot := by
    rw [hentries]
    exact h.tallies
  refine ⟨hlogs, ?_, ?_⟩
  · rw [maps_append]
    exact htallies
  · obtain ⟨k, hl, -⟩ := hlogs.consistent
    have hk : k ≤ s.maps.packetRingbuf.submitted.length := by
      rw [← htallies.length_eq]
      exact hl.le
    have hpos : ring.consumerPos = RECORD_SIZE * k := by rw [hl.consumer, position_log htallies.lengths hl.le]
    have hold := h.consumed
    rw [maps_append, hpos]
    show RECORD_SIZE * k = RECORD_SIZE * min (s.maps.packetRingbuf.consumed +
      (RECORD_SIZE * k - s.ring.consumerPos) / RECORD_SIZE) s.maps.packetRingbuf.submitted.length
    rw [hpos, hold] at hle
    rw [hold, ← Nat.mul_sub, Nat.mul_div_cancel_left _ (by decide),
      Nat.add_sub_cancel' (Nat.le_of_mul_le_mul_left hle (by decide)), Nat.min_eq_left hk]

lemma refines_step {a : PathAct N} (h : s.Refines) (hs : s.step a = some t) : t.Refines := by
  cases a with
  | configure settings =>
    obtain ⟨-, rfl⟩ := by simpa [Path.step] using hs
    exact refines_configure h settings
  | packet f now pad =>
    simp only [Path.step, Option.ite_none_right_eq_some, Option.some.injEq] at hs
    obtain ⟨hslot, rfl⟩ := hs
    exact refines_packet h hslot f now pad
  | write =>
    cases hslot : s.slot with
    | none => simp [Path.step, hslot] at hs
    | some slot =>
      obtain ⟨log, w⟩ := slot
      simp only [Path.step, hslot, Option.ite_none_right_eq_some, Option.map_eq_some_iff] at hs
      obtain ⟨hw, ring, hring, rfl⟩ := hs
      exact refines_write h hslot hw hring
  | submit =>
    simp only [Path.step] at hs
    split at hs
    · next log hslot =>
      obtain ⟨ring, hring, rfl⟩ := Option.map_eq_some_iff.mp hs
      exact refines_submit h hslot hring
    · cases hs
  | worker a =>
    cases a with
    | produce b => cases hs
    | _ =>
      obtain ⟨ring, hring, rfl⟩ := Option.map_eq_some_iff.mp hs
      exact refines_worker h (fun _ hb => by cases hb) hring

lemma Entry.Carries.sample {log : PacketLogs} {e : Entry} (h : e.Carries log) :
    e.sample? = some (logBytes log) := by
  rw [Entry.sample?, if_pos h.1, h.2]

lemma samples_carried {log : List PacketLogs} {entries : List Entry} (h : List.Forall₂ Entry.Carries log entries)
    (k : ℕ) : (samples (entries.take k)).map readLog = log.take k := by
  induction h generalizing k with
  | nil => simp [samples]
  | cons hc _ ih =>
    cases k with
    | zero => rfl
    | succ k =>
      have ih := ih k
      rw [samples] at ih
      rw [List.take_succ_cons, List.take_succ_cons, samples, List.filterMap_cons_some hc.sample, List.map_cons, ih,
        readLog_logBytes]

lemma Tallies.samples {log : List PacketLogs} {entries : List Entry} {slot : Option (PacketLogs × ℕ)}
    (h : Tallies log entries slot) {k : ℕ} (hk : k ≤ entries.length)
    (hsettled : ∀ e ∈ entries.take k, e.status ≠ .busy) :
    (Logging.samples (entries.take k)).map readLog = log.take k := by
  cases slot with
  | none => exact samples_carried h k
  | some slot =>
    obtain ⟨before, e, done, rfl, rfl, hdone, hholding, -⟩ := h
    -- The record in hand is not settled, so it is not among the first `k`.
    have hle : k ≤ done.length := by
      by_contra hlt
      have hall : (done ++ [e]).length ≤ k := by
        rw [List.length_append, List.length_singleton]
        omega
      refine hsettled e ?_ hholding.busy
      rw [List.take_of_length_le hall]
      simp
    rw [List.take_append_of_le_length hle, List.take_append_of_le_length (by rw [hdone.length_eq]; exact hle)]
    exact samples_carried hdone k

lemma Path.Refines.delivered (h : s.Refines) :
    ∃ k ≤ s.maps.packetRingbuf.submitted.length, s.ring.ctx.delivered = s.maps.packetRingbuf.submitted.take k ∧
      (s.ring.consumer = .idle → s.ring.consumerPos = s.ring.producerPos →
        k = s.maps.packetRingbuf.submitted.length) := by
  obtain ⟨k, hl, hp⟩ := h.logs.consistent
  have hlen := h.tallies.length_eq
  rcases hp.delivered with hd | ⟨hd, e, he, hset⟩
  · refine ⟨k, hlen ▸ hl.le, ?_, fun _ heq => ?_⟩
    · rw [h.logs.delivered, hd, h.tallies.samples hl.le hl.settled]
    · have hk := h.consumed
      rw [heq, h.positions.1, Nat.mul_right_inj (by decide)] at hk
      have hpos := h.consumed
      rw [hl.consumer, position_log h.tallies.lengths hl.le, Nat.mul_right_inj (by decide)] at hpos
      rw [hpos, ← hk]
  · have hstored := Layout.store hl he hset
    refine ⟨k + 1, hlen ▸ hstored.le, ?_, fun hidle heq => ?_⟩
    · rw [h.logs.delivered, hd, h.tallies.samples hstored.le hstored.settled]
    · have hend : position s.ring.entries k = position s.ring.entries s.ring.entries.length := by
        rw [← hl.consumer, heq, hl.producer]
      have hk : k < s.ring.entries.length := (List.getElem?_eq_some_iff.mp he).1
      exact absurd hend (Nat.ne_of_lt ((position_lt_iff hl.le).mpr hk))

end Refinement

/-- Along every run the ring of the maps has room exactly when its bytes do, and the access log is made of the
records that `xdp_filter` has submitted: those logged and those in the buffer are the first of them, in their
order, and all of them when the worker has caught up. -/
theorem access_log_of_packets (data : Memory) (lastWrite : ℤ) (acts : List (PathAct N)) (s : Path N)
    (hrun : runs Path.step (.start data lastWrite) acts = some s) :
    let m := runAll (.zeroed : Maps N) s.events
    (∀ pad, m.packetRingbuf.HasRoom ↔ (s.ring.reserve 24 pad LOG_SIZE).isSome) ∧
    ∃ k ≤ (records (.zeroed : Maps N) s.events).length,
      let submitted := (records (.zeroed : Maps N) s.events).take k
      s.ring.ctx.logged.map LogLine.shown = (submitted.take s.ring.ctx.logged.length).map shown ∧
      s.ring.ctx.ctx.buffer.map LogEntry.record = submitted.drop s.ring.ctx.logged.length ∧
      (s.ring.consumer = .idle → s.ring.consumerPos = s.ring.producerPos →
        k = (records (.zeroed : Maps N) s.events).length) := by
  intro m
  have hs : s.Refines := invariant_runs (fun _ _ _ hu ht => refines_step hu ht) (refines_start data lastWrite) hrun
  have hacc : Kernel.Accounts s.maps (records .zeroed s.events) :=
    Kernel.accounts_runAll Kernel.accounts_zeroed s.events
  obtain ⟨k, hle, hd, hall⟩ := hs.delivered
  rw [hacc.submitted] at hle hd hall
  refine ⟨hs.hasRoom_iff, k, hle, ?_, ?_, hall⟩
  · rw [← hd]
    exact hs.logs.sound.accounts.logged
  · rw [← hd]
    exact hs.logs.sound.accounts.held

def packetLogged : List (PathAct 4) :=
  [.worker (.work (.create true)), .worker (.work .check), .packet (.source 0x0A000001#32) 5 0, .write,
    .worker (.epollWait 1), .worker (.advance ⟨7, 0, 0⟩), .write, .write, .submit, .worker (.work .stop)] ++
    List.replicate 5 (.worker (.advance ⟨7, 0, 0⟩)) ++
    [.worker .pollReturns, .worker (.work (.timeoutCheck ⟨8, 0, 0⟩)), .worker (.work .check),
      .worker (.work (.finish ⟨9, 1, 1⟩))]

theorem access_log_of_packets_one :
    ∃ s, runs Path.step (.start (fun _ => 0) 0 : Path 4) packetLogged = some s ∧ s.ring.ctx.logged.length = 1 ∧
      s.ring.ctx.logged.map LogLine.shown = (records (.zeroed : Maps 4) s.events).map shown := by
  have hrun := runs_reached Path.step (.start (fun _ => 0) 0 : Path 4) packetLogged (by decide +kernel)
  set s := reached Path.step (.start (fun _ => 0) 0 : Path 4) packetLogged with hdef
  have hlength : s.ring.ctx.logged.length = (records (.zeroed : Maps 4) s.events).length := by decide +kernel
  obtain ⟨-, k, -, hlogged, -, hall⟩ := access_log_of_packets _ 0 packetLogged s hrun
  have hk := hall (by decide +kernel) (by decide +kernel)
  refine ⟨s, hrun, by decide +kernel, ?_⟩
  rw [hlogged, hk, hlength, List.take_take, Nat.min_self, List.take_length]

end PacketFilter.Logging
