import PacketFilter.Library.Machines
import PacketFilter.Library.Rings

/-! ringbuf.c of libbpf: `ringbuf_process_ring` beside the reservations made in the kernel. -/

namespace PacketFilter.Logging

open Library.Bytes Library.Machines Library.Rings

def BPF_RINGBUF_BUSY_BIT : BitVec 32 := 1 <<< 31
def BPF_RINGBUF_DISCARD_BIT : BitVec 32 := 1 <<< 30
def BPF_RINGBUF_HDR_SZ : ℕ := 8

/-- In 32-bit arithmetic: the two flags cleared, the header added, and rounded up to 8. -/
def roundupLen (len : BitVec 32) : ℕ :=
  (((len <<< 2 >>> 2) + BitVec.ofNat 32 BPF_RINGBUF_HDR_SZ + 7) / 8 * 8).toNat

inductive Status where
  | busy
  | submitted
  | discarded
  deriving DecidableEq

def Status.flags : Status → BitVec 32
  | .busy => BPF_RINGBUF_BUSY_BIT
  | .submitted => 0
  | .discarded => BPF_RINGBUF_DISCARD_BIT

lemma Status.flags_shifted (status : Status) : status.flags <<< 2 = 0#32 := by cases status <;> rfl

section Lengths

variable {w flags : BitVec 32}

lemma cleared_eq (hw : w.toNat < 2 ^ 30) (hf : flags <<< 2 = 0#32) : (w ||| flags) <<< 2 >>> 2 = w := by
  rw [BitVec.shiftLeft_or_distrib, hf, BitVec.or_zero]
  apply BitVec.eq_of_toNat_eq
  rw [BitVec.toNat_ushiftRight, BitVec.toNat_shiftLeft, Nat.shiftLeft_eq, Nat.shiftRight_eq_div_pow]
  omega

lemma roundupLen_or (hw : w.toNat < 2 ^ 30) (hf : flags <<< 2 = 0#32) :
    roundupLen (w ||| flags) = (w.toNat + 15) / 8 * 8 := by
  rw [roundupLen, cleared_eq hw hf]
  simp [BPF_RINGBUF_HDR_SZ]
  omega

lemma or_and_flag {bit : BitVec 32} {n : ℕ} (hw : w.toNat < 2 ^ 30) (hb : bit.toNat = 2 ^ 30 * n) :
    (w ||| flags) &&& bit = flags &&& bit := by
  have hzero : w &&& bit = 0#32 := by
    apply BitVec.eq_of_toNat_eq
    rw [BitVec.toNat_and, hb]
    apply Nat.eq_of_testBit_eq
    intro i
    rw [Nat.testBit_and, Nat.testBit_two_pow_mul]
    rcases Nat.lt_or_ge i 30 with hi | hi
    · simp
      omega
    · rw [Nat.testBit_lt_two_pow (hw.trans_le (Nat.pow_le_pow_right (by decide) hi))]
      simp
  rw [BitVec.and_or_distrib_right, hzero, BitVec.zero_or]

end Lengths

structure Entry where
  payload : List (BitVec 8)
  status : Status
  pad : BitVec 32
  fits : payload.length < 2 ^ 30
  deriving DecidableEq

namespace Entry

def header (e : Entry) : BitVec 32 := BitVec.ofNat 32 e.payload.length ||| e.status.flags

def width (e : Entry) : ℕ := (e.payload.length + 15) / 8 * 8

def block (e : Entry) : Block where
  bytes := wordBytes e.header ++ (wordBytes e.pad ++ e.payload)
  width := e.width
  fits := by
    simp [width]
    omega

def sample? (e : Entry) : Option (List (BitVec 8)) := if e.status = .submitted then some e.payload else none

def fill (e : Entry) (k : ℕ) (bytes : List (BitVec 8)) (h : k + bytes.length ≤ e.payload.length) : Entry where
  payload := e.payload.take k ++ (bytes ++ e.payload.drop (k + bytes.length))
  status := e.status
  pad := e.pad
  fits := by
    have hfits := e.fits
    simp
    omega

def settle (e : Entry) (discard : Bool) : Entry := { e with status := if discard then .discarded else .submitted }

lemma toNat_length (e : Entry) : (BitVec.ofNat 32 e.payload.length).toNat = e.payload.length := by
  have hfits := e.fits
  rw [BitVec.toNat_ofNat]
  omega

lemma roundupLen_header (e : Entry) : roundupLen e.header = e.width := by
  rw [header, roundupLen_or (by rw [toNat_length]; exact e.fits) e.status.flags_shifted, toNat_length, width]

lemma busy_iff (e : Entry) : e.header &&& BPF_RINGBUF_BUSY_BIT ≠ 0 ↔ e.status = .busy := by
  have hand : e.header &&& BPF_RINGBUF_BUSY_BIT = e.status.flags &&& BPF_RINGBUF_BUSY_BIT :=
    or_and_flag (by rw [toNat_length]; exact e.fits) (show _ = 2 ^ 30 * 2 by decide)
  rw [hand]
  cases e.status <;> decide

lemma discarded_iff (e : Entry) (h : e.status ≠ .busy) :
    e.header &&& BPF_RINGBUF_DISCARD_BIT = 0 ↔ e.status = .submitted := by
  have hand : e.header &&& BPF_RINGBUF_DISCARD_BIT = e.status.flags &&& BPF_RINGBUF_DISCARD_BIT :=
    or_and_flag (by rw [toNat_length]; exact e.fits) (show _ = 2 ^ 30 * 1 by decide)
  rw [hand]
  cases hs : e.status with
  | busy => exact absurd hs h
  | submitted => decide
  | discarded => decide

lemma header_submitted {e : Entry} (h : e.status = .submitted) : e.header.toNat = e.payload.length := by
  rw [header, h, Status.flags, BitVec.ofNat_eq_ofNat, BitVec.or_zero, toNat_length]

lemma width_pos (e : Entry) : 0 < e.width := by
  rw [width]
  omega

end Entry

inductive Consumer where
  | idle
  | loadConsumer (n : ℕ)
  | loadProducer (n cnt consPos : ℕ)
  | loadLen (n cnt consPos prodPos : ℕ) (gotNewData : Bool)
  | callback (n cnt consPos prodPos lenPtr : ℕ) (len : BitVec 32)
  | store (n cnt consPos prodPos : ℕ) (err : Option ℤ)
  | returned (res : ℤ)
  deriving DecidableEq

structure Channel (σ : Type) where
  data : Memory
  consumerPos : ℕ
  producerPos : ℕ
  consumer : Consumer
  ctx : σ
  entries : List Entry
  delivered : List (List (BitVec 8))

inductive RingAct (ι : Type) where
  | reserve (pad : BitVec 32) (len : ℕ)
  | fill (i k : ℕ) (bytes : List (BitVec 8))
  | commit (i : ℕ) (discard : Bool)
  | call (n : ℕ)
  | advance (input : ι)

def position (es : List Entry) (k : ℕ) : ℕ := extent ((es.take k).map Entry.block)

def Consumer.inner (n cnt consPos prodPos : ℕ) (gotNewData : Bool) : Consumer :=
  if consPos < prodPos then .loadLen n cnt consPos prodPos gotNewData
  else if gotNewData then .loadProducer n cnt consPos
  else .returned cnt

namespace Channel

variable {σ ι : Type} (order : ℕ) (sampleCb : σ → List (BitVec 8) → ι → σ × ℤ)

def start (data : Memory) (ctx : σ) : Channel σ := ⟨data, 0, 0, .idle, ctx, [], []⟩

/-- What is reserved next: memory as the last round left it. -/
def fresh (s : Channel σ) (pad : BitVec 32) (len : ℕ) (h : len < 2 ^ 30) : Entry where
  payload := bytesAt (view (2 ^ order) s.data) (s.producerPos + BPF_RINGBUF_HDR_SZ) len
  status := .busy
  pad := pad
  fits := by simpa

/-- `bpf_ringbuf_reserve`, which finds no room when the ring would be filled to its last byte. -/
def reserve (s : Channel σ) (pad : BitVec 32) (len : ℕ) : Option (Channel σ) :=
  if h : len < 2 ^ 30 then
    if s.producerPos + (s.fresh order pad len h).width - s.consumerPos ≤ 2 ^ order - 1 then
      some { s with
        data := put (2 ^ order) s.producerPos (wordBytes (s.fresh order pad len h).header ++ wordBytes pad) s.data
        producerPos := s.producerPos + (s.fresh order pad len h).width
        entries := s.entries ++ [s.fresh order pad len h] }
    else none
  else none

def fill (s : Channel σ) (i k : ℕ) (bytes : List (BitVec 8)) : Option (Channel σ) :=
  match s.entries[i]? with
  | none => none
  | some e =>
    if h : e.status = .busy ∧ k + bytes.length ≤ e.payload.length then
      some { s with
        data := put (2 ^ order) (position s.entries i + (BPF_RINGBUF_HDR_SZ + k)) bytes s.data
        entries := s.entries.set i (e.fill k bytes h.2) }
    else none

def commit (s : Channel σ) (i : ℕ) (discard : Bool) : Option (Channel σ) :=
  match s.entries[i]? with
  | none => none
  | some e =>
    if e.status = .busy then
      some { s with
        data := put (2 ^ order) (position s.entries i) (wordBytes (e.settle discard).header) s.data
        entries := s.entries.set i (e.settle discard) }
    else none

/-- One access of `ringbuf_process_ring` to the shared pages, or one call of its callback. -/
def advance (s : Channel σ) (input : ι) : Option (Channel σ) :=
  match s.consumer with
  | .idle | .returned _ => none
  | .loadConsumer n => some { s with consumer := .loadProducer n 0 s.consumerPos }
  | .loadProducer n cnt consPos => some { s with consumer := .inner n cnt consPos s.producerPos false }
  | .loadLen n cnt consPos prodPos _ =>
      let lenPtr := consPos &&& (2 ^ order - 1)
      let len := word (view (2 ^ order) s.data) lenPtr
      some { s with
        consumer :=
          if len &&& BPF_RINGBUF_BUSY_BIT ≠ 0 then .returned cnt
          else if len &&& BPF_RINGBUF_DISCARD_BIT = 0 then
            .callback n cnt (consPos + roundupLen len) prodPos lenPtr len
          else .store n cnt (consPos + roundupLen len) prodPos none }
  | .callback n cnt consPos prodPos lenPtr len =>
      let sample := bytesAt (view (2 ^ order) s.data) (lenPtr + BPF_RINGBUF_HDR_SZ) len.toNat
      let r := sampleCb s.ctx sample input
      some { s with
        ctx := r.1
        delivered := s.delivered ++ [sample]
        consumer :=
          if r.2 < 0 then .store n cnt consPos prodPos (some r.2) else .store n (cnt + 1) consPos prodPos none }
  | .store n cnt consPos prodPos err =>
      some { s with
        consumerPos := consPos
        consumer :=
          match err with
          | some err => .returned err
          | none => if n ≤ cnt then .returned cnt else .inner n cnt consPos prodPos true }

def step (s : Channel σ) : RingAct ι → Option (Channel σ)
  | .reserve pad len => s.reserve order pad len
  | .fill i k bytes => s.fill order i k bytes
  | .commit i discard => s.commit order i discard
  | .call n =>
      match s.consumer with
      | .idle | .returned _ => some { s with consumer := .loadConsumer n }
      | _ => none
  | .advance input => s.advance order sampleCb input

end Channel

end PacketFilter.Logging
