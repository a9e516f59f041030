import PacketFilter.Logging.RingBuffer

/-! Which samples the consumer of the ring buffer hands over, whatever the producers do meanwhile. -/

namespace PacketFilter.Logging

open Library.Bytes Library.Machines Library.Rings

section Positions

variable {es : List Entry} {k : ℕ}

lemma position_succ {e : Entry} (h : es[k]? = some e) : position es (k + 1) = position es k + e.width := by
  rw [position, position, List.take_add_one, h]
  simp [Entry.block]

lemma position_add_extent (es : List Entry) (k : ℕ) :
    position es k + extent ((es.drop k).map Entry.block) = position es es.length := by
  rw [position, position, List.take_length, ← extent_append, ← List.map_append, List.take_append_drop]

lemma position_le (es : List Entry) {j k : ℕ} (h : j ≤ k) : position es j ≤ position es k := by
  obtain ⟨d, rfl⟩ := Nat.exists_eq_add_of_le h
  rw [position, position, List.take_add, List.map_append, extent_append]
  exact Nat.le_add_right _ _

lemma position_lt_iff (hk : k ≤ es.length) : position es k < position es es.length ↔ k < es.length := by
  constructor
  · intro hlt
    by_contra hge
    rw [show k = es.length by omega] at hlt
    exact lt_irrefl _ hlt
  · intro hlt
    have hs := position_succ (List.getElem?_eq_getElem hlt)
    have hw := es[k].width_pos
    have hle := position_le es (show k + 1 ≤ es.length from hlt)
    omega

end Positions

def Entry.Becomes (e f : Entry) : Prop := f.width = e.width ∧ (e.status ≠ .busy → f = e)

lemma Entry.becomes_refl (e : Entry) : e.Becomes e := ⟨rfl, fun _ => rfl⟩

structure Evolves (es fs : List Entry) : Prop where
  length_le : es.length ≤ fs.length
  becomes : ∀ (i : ℕ) (e : Entry), es[i]? = some e → ∃ f, fs[i]? = some f ∧ e.Becomes f

lemma evolves_concat (es : List Entry) (e : Entry) : Evolves es (es ++ [e]) where
  length_le := by simp
  becomes i f hf := by
    obtain ⟨hi, -⟩ := List.getElem?_eq_some_iff.mp hf
    exact ⟨f, by rw [List.getElem?_append_left hi, hf], f.becomes_refl⟩

lemma evolves_set {es : List Entry} {i : ℕ} {e f : Entry} (hi : es[i]? = some e) (h : e.Becomes f) :
    Evolves es (es.set i f) where
  length_le := by simp
  becomes j g hg := by
    by_cases hij : i = j
    · subst hij
      obtain ⟨hj, -⟩ := List.getElem?_eq_some_iff.mp hg
      obtain rfl : e = g := Option.some.inj (hi.symm.trans hg)
      exact ⟨f, List.getElem?_set_self hj, h⟩
    · exact ⟨g, by rw [List.getElem?_set_ne hij, hg], g.becomes_refl⟩

section Evolves

variable {es fs : List Entry} {k : ℕ}

lemma Evolves.position_eq (h : Evolves es fs) (hk : k ≤ es.length) : position fs k = position es k := by
  induction k with
  | zero => rfl
  | succ k ih =>
    have he : es[k]? = some es[k] := List.getElem?_eq_getElem (by omega)
    obtain ⟨f, hf, hwidth, -⟩ := h.becomes k _ he
    rw [position_succ hf, position_succ he, hwidth, ih (by omega)]

lemma Evolves.take_eq (h : Evolves es fs) (hk : k ≤ es.length) (hs : ∀ e ∈ es.take k, e.status ≠ .busy) :
    fs.take k = es.take k := by
  apply List.ext_getElem?
  intro i
  rcases Nat.lt_or_ge i k with hi | hi
  · have he : es[i]? = some es[i] := List.getElem?_eq_getElem (by omega)
    obtain ⟨f, hf, -, hsame⟩ := h.becomes i _ he
    have hm : es[i] ∈ es.take k := by
      rw [List.mem_take_iff_getElem]
      exact ⟨i, by omega, rfl⟩
    rw [List.getElem?_take_of_lt hi, List.getElem?_take_of_lt hi, hf, he, hsame (hs _ hm)]
  · simp [Nat.not_lt.mpr hi]

lemma Evolves.getElem?_eq (h : Evolves es fs) {e : Entry} (he : es[k]? = some e) (hs : e.status ≠ .busy) :
    fs[k]? = some e := by
  obtain ⟨f, hf, -, hsame⟩ := h.becomes k e he
  rw [hf, hsame hs]

lemma Evolves.position_length_le (h : Evolves es fs) : position es es.length ≤ position fs fs.length := by
  rw [← h.position_eq le_rfl]
  exact position_le fs h.length_le

end Evolves

structure Layout (size : ℕ) (data : Memory) (consumerPos producerPos : ℕ) (es : List Entry) (k : ℕ) : Prop where
  le : k ≤ es.length
  consumer : consumerPos = position es k
  producer : producerPos = position es es.length
  room : producerPos < consumerPos + size
  laid : Laid (view size data) consumerPos ((es.drop k).map Entry.block)
  settled : ∀ e ∈ es.take k, e.status ≠ .busy

section Layout

variable {size consumerPos producerPos k : ℕ} {data : Memory} {es : List Entry}

lemma Layout.extent_lt (h : Layout size data consumerPos producerPos es k) :
    extent ((es.drop k).map Entry.block) < size := by
  have hsum := position_add_extent es k
  have hroom := h.room
  rw [h.producer, h.consumer] at hroom
  omega

lemma Layout.head (h : Layout size data consumerPos producerPos es k) {e : Entry} (he : es[k]? = some e) :
    Holds (view size data) consumerPos e.block.bytes := by
  have hdrop : es.drop k = e :: es.drop (k + 1) := by
    obtain ⟨hk, rfl⟩ := List.getElem?_eq_some_iff.mp he
    exact List.drop_eq_getElem_cons hk
  have hlaid := h.laid
  rw [hdrop] at hlaid
  exact hlaid.1

lemma Layout.reserve (h : Layout size data consumerPos producerPos es k) {e : Entry}
    (hroom : producerPos + e.width < consumerPos + size)
    (hpayload : Holds (view size data) (producerPos + 8) e.payload) :
    Layout size (put size producerPos (wordBytes e.header ++ wordBytes e.pad) data) consumerPos
      (producerPos + e.width) (es ++ [e]) k := by
  have hsum := position_add_extent es k
  have hpos : producerPos = consumerPos + extent ((es.drop k).map Entry.block) := by
    rw [h.producer, h.consumer, hsum]
  have hevolves := evolves_concat es e
  have hwidth : 8 + e.payload.length ≤ e.width := by
    have hf := e.block.fits
    simpa [Entry.block, ← Nat.add_assoc] using hf
  have hlast : position (es ++ [e]) (es.length + 1) = position es es.length + e.width := by
    rw [position_succ (e := e) (by simp), hevolves.position_eq le_rfl]
  refine ⟨h.le.trans hevolves.length_le, ?_, ?_, hroom, ?_, ?_⟩
  · rw [hevolves.position_eq h.le, h.consumer]
  · rw [List.length_append, List.length_singleton, hlast, h.producer]
  · rw [List.drop_append_of_le_length h.le, List.map_append, List.map_singleton]
    set bs := wordBytes e.header ++ wordBytes e.pad with hbs
    have hbytes : bs.length = 8 := rfl
    have hblock : Holds (view size (put size producerPos bs data)) producerPos e.block.bytes := by
      have hhead : Holds (view size (put size producerPos bs data)) producerPos bs := holds_put (by omega)
      have htail : Holds (view size (put size producerPos bs data)) (producerPos + 8) e.payload :=
        holds_put_behind hpayload (by omega) (by omega)
      simpa [Entry.block, hbs] using hhead.append htail
    rw [hpos] at hblock ⊢
    refine h.laid.put_last ?_ ?_ hblock
    · simp only [extent_append, extent_cons, extent_nil, Entry.block]
      omega
    · simp only [Entry.block]
      omega
  · rw [hevolves.take_eq h.le h.settled]
    exact h.settled

lemma Layout.le_busy (h : Layout size data consumerPos producerPos es k) {i : ℕ} {e : Entry} (hi : es[i]? = some e)
    (hbusy : e.status = .busy) : k ≤ i := by
  by_contra hik
  obtain ⟨hlt, he⟩ := List.getElem?_eq_some_iff.mp hi
  refine h.settled e ?_ hbusy
  rw [List.mem_take_iff_getElem]
  exact ⟨i, by omega, he⟩

lemma Layout.rewrite (h : Layout size data consumerPos producerPos es k) {i j : ℕ} {e f : Entry}
    {bs : List (BitVec 8)} (hi : es[i]? = some e) (hbusy : e.status = .busy) (hwidth : f.width = e.width)
    (hj : j + bs.length ≤ e.width)
    (hblock : Holds (view size data) (position es i) e.block.bytes →
      Holds (view size (put size (position es i + j) bs data)) (position es i) f.block.bytes) :
    Layout size (put size (position es i + j) bs data) consumerPos producerPos (es.set i f) k := by
  have hbecomes : e.Becomes f := ⟨hwidth, fun hn => absurd hbusy hn⟩
  have hevolves := evolves_set hi hbecomes
  obtain ⟨hlt, he⟩ := List.getElem?_eq_some_iff.mp hi
  have hki := h.le_busy hi hbusy
  refine ⟨by simpa using h.le, ?_, ?_, h.room, ?_, ?_⟩
  · rw [hevolves.position_eq h.le, h.consumer]
  · rw [List.length_set, hevolves.position_eq le_rfl, h.producer]
  · have hle : k ≤ (es.take i).length := by
      rw [List.length_take]
      omega
    have hsplit : es.drop k = (es.take i).drop k ++ e :: es.drop (i + 1) := by
      rw [← List.drop_append_of_le_length hle, ← he, ← List.drop_eq_getElem_cons hlt,
        List.take_append_drop]
    have hset : (es.set i f).drop k = (es.take i).drop k ++ f :: es.drop (i + 1) := by
      rw [List.set_eq_take_append_cons_drop, if_pos hlt, List.drop_append_of_le_length hle]
    have hpos : position es i = consumerPos + extent (((es.take i).drop k).map Entry.block) := by
      have htake : position es i = extent ((es.take i).map Entry.block) := rfl
      rw [h.consumer, htake, position, ← extent_append, ← List.map_append,
        show es.take k = (es.take i).take k by rw [List.take_take, Nat.min_eq_left hki], List.take_append_drop]
    have hlaid := h.laid
    have hextent := h.extent_lt
    rw [hsplit, List.map_append, List.map_cons] at hlaid hextent
    rw [hset, List.map_append, List.map_cons]
    rw [hpos] at hblock ⊢
    exact hlaid.put_inside hextent.le hj hwidth (hblock (laid_append.mp hlaid).2.1)
  · rw [hevolves.take_eq h.le h.settled]
    exact h.settled

lemma Layout.width_le (h : Layout size data consumerPos producerPos es k) {i : ℕ} {e : Entry}
    (hi : es[i]? = some e) (hbusy : e.status = .busy) : e.width ≤ size := by
  have hki := h.le_busy hi hbusy
  have hs := position_succ hi
  have h1 := position_le es hki
  have h2 := position_le es (List.getElem?_eq_some_iff.mp hi).1
  have hroom := h.room
  rw [h.producer, h.consumer] at hroom
  simp only [Nat.succ_eq_add_one] at h2
  omega

lemma Layout.store (h : Layout size data consumerPos producerPos es k) {e : Entry} (he : es[k]? = some e)
    (hsettled : e.status ≠ .busy) : Layout size data (position es (k + 1)) producerPos es (k + 1) := by
  obtain ⟨hk, hek⟩ := List.getElem?_eq_some_iff.mp he
  have hpos := position_succ he
  have hroom := h.room
  have hconsumer := h.consumer
  refine ⟨hk, rfl, h.producer, by omega, ?_, ?_⟩
  · have hlaid := h.laid
    rw [List.drop_eq_getElem_cons hk, hek, hconsumer] at hlaid
    rw [hpos]
    exact hlaid.2
  · intro f hf
    rw [List.take_add_one, he] at hf
    rcases List.mem_append.mp hf with hf | hf
    · exact h.settled f hf
    · obtain rfl : f = e := by simpa using hf
      exact hsettled

end Layout

def samples (es : List Entry) : List (List (BitVec 8)) := es.filterMap Entry.sample?

lemma samples_succ {es : List Entry} {k : ℕ} {e : Entry} (he : es[k]? = some e) :
    samples (es.take (k + 1)) = samples (es.take k) ++ e.sample?.toList := by
  rw [samples, samples, List.take_add_one, he, List.filterMap_append]
  cases h : e.sample? <;> simp [h]

def Place (size : ℕ) (es : List Entry) (k : ℕ) (delivered : List (List (BitVec 8))) : Consumer → Prop
  | .idle | .returned _ | .loadConsumer _ => delivered = samples (es.take k)
  | .loadProducer _ _ consPos => delivered = samples (es.take k) ∧ consPos = position es k
  | .loadLen _ _ consPos prodPos _ =>
      delivered = samples (es.take k) ∧ consPos = position es k ∧ consPos < prodPos ∧
        prodPos ≤ position es es.length
  | .callback _ _ consPos prodPos lenPtr len =>
      delivered = samples (es.take k) ∧ prodPos ≤ position es es.length ∧ lenPtr = position es k % size ∧
        ∃ e, es[k]? = some e ∧ e.status = .submitted ∧ consPos = position es (k + 1) ∧ len = e.header
  | .store _ _ consPos prodPos _ =>
      delivered = samples (es.take (k + 1)) ∧ prodPos ≤ position es es.length ∧
        ∃ e, es[k]? = some e ∧ e.status ≠ .busy ∧ consPos = position es (k + 1)

lemma place_evolves {size k : ℕ} {es fs : List Entry} {delivered : List (List (BitVec 8))} {consumer : Consumer}
    (h : Evolves es fs) (hk : k ≤ es.length) (hs : ∀ e ∈ es.take k, e.status ≠ .busy)
    (hp : Place size es k delivered consumer) : Place size fs k delivered consumer := by
  have htake := h.take_eq hk hs
  have hpos := h.position_eq hk
  have hlast := h.position_length_le
  cases consumer with
  | idle => rwa [Place, htake]
  | returned res => rwa [Place, htake]
  | loadConsumer n => rwa [Place, htake]
  | loadProducer n cnt consPos => rwa [Place, htake, hpos]
  | loadLen n cnt consPos prodPos gotNewData =>
    obtain ⟨hd, hc, hlt, hle⟩ := hp
    exact ⟨htake ▸ hd, hpos ▸ hc, hlt, hle.trans hlast⟩
  | callback n cnt consPos prodPos lenPtr len =>
    obtain ⟨hd, hle, hptr, e, he, hsub, hc, hlen⟩ := hp
    have hk' : k + 1 ≤ es.length := (List.getElem?_eq_some_iff.mp he).1
    exact ⟨htake ▸ hd, hle.trans hlast, hpos ▸ hptr, e, h.getElem?_eq he (by simp [hsub]), hsub,
      h.position_eq hk' ▸ hc, hlen⟩
  | store n cnt consPos prodPos err =>
    obtain ⟨hd, hle, e, he, hset, hc⟩ := hp
    have hk' : k + 1 ≤ es.length := (List.getElem?_eq_some_iff.mp he).1
    have hsamples : samples (fs.take (k + 1)) = samples (es.take (k + 1)) := by
      rw [samples_succ (h.getElem?_eq he hset), samples_succ he, htake]
    exact ⟨hsamples ▸ hd, hle.trans hlast, e, h.getElem?_eq he hset, hset, h.position_eq hk' ▸ hc⟩

section Steps

variable {σ ι : Type} {order : ℕ} {sampleCb : σ → List (BitVec 8) → ι → σ × ℤ} {s t : Channel σ}

def Channel.LaidOut (order : ℕ) (s : Channel σ) (k : ℕ) : Prop :=
  Layout (2 ^ order) s.data s.consumerPos s.producerPos s.entries k

structure Produces (order : ℕ) (s t : Channel σ) : Prop where
  consumer : t.consumer = s.consumer
  ctx : t.ctx = s.ctx
  delivered : t.delivered = s.delivered
  consumerPos : t.consumerPos = s.consumerPos
  evolves : Evolves s.entries t.entries
  laidOut : ∀ k, s.LaidOut order k → t.LaidOut order k

lemma produces_reserve {pad : BitVec 32} {len : ℕ} (h : s.reserve order pad len = some t) :
    Produces order s t := by
  simp only [Channel.reserve, Option.dite_none_right_eq_some, Option.ite_none_right_eq_some,
    Option.some.injEq] at h
  obtain ⟨hlen, hroom, rfl⟩ := h
  refine ⟨rfl, rfl, rfl, rfl, evolves_concat _ _, fun k hl => ?_⟩
  have hle : s.consumerPos ≤ s.producerPos := by
    rw [hl.consumer, hl.producer]
    exact position_le _ hl.le
  have hpow : 0 < 2 ^ order := Nat.two_pow_pos order
  exact Layout.reserve hl (by omega) (holds_bytesAt _ _ _)

lemma produces_commit {i : ℕ} {discard : Bool} (h : s.commit order i discard = some t) : Produces order s t := by
  rw [Channel.commit] at h
  split at h
  · cases h
  · rename_i e he
    simp only [Option.ite_none_right_eq_some, Option.some.injEq] at h
    obtain ⟨hbusy, rfl⟩ := h
    refine ⟨rfl, rfl, rfl, rfl, evolves_set he ⟨rfl, fun hn => absurd hbusy hn⟩, fun k hl => ?_⟩
    have hwidth : 4 ≤ e.width := by
      rw [Entry.width]
      omega
    have hsize := hl.width_le he hbusy
    refine Layout.rewrite hl (j := 0) he hbusy rfl (by simpa using hwidth) (fun hholds => ?_)
    have hbytes : Holds (view (2 ^ order) s.data) (position s.entries i)
        ([] ++ (wordBytes e.header ++ (wordBytes e.pad ++ e.payload))) := hholds
    exact holds_splice hbytes rfl (e.block.fits.trans hsize)

lemma produces_fill {i j : ℕ} {bytes : List (BitVec 8)} (h : s.fill order i j bytes = some t) :
    Produces order s t := by
  rw [Channel.fill] at h
  split at h
  · cases h
  · rename_i e he
    simp only [Option.dite_none_right_eq_some, Option.some.injEq] at h
    obtain ⟨⟨hbusy, hj⟩, rfl⟩ := h
    have hlength : (e.fill j bytes hj).payload.length = e.payload.length := by
      simp [Entry.fill]
      omega
    have hwidth : (e.fill j bytes hj).width = e.width := by rw [Entry.width, hlength, Entry.width]
    have hheader : (e.fill j bytes hj).header = e.header := by
      rw [Entry.header, hlength]
      rfl
    refine ⟨rfl, rfl, rfl, rfl, evolves_set he ⟨hwidth, fun hn => absurd hbusy hn⟩, fun k hl => ?_⟩
    have hsize := hl.width_le he hbusy
    have hfits := e.block.fits
    refine Layout.rewrite hl he hbusy hwidth ?_ (fun hholds => ?_)
    · simp [Entry.block, BPF_RINGBUF_HDR_SZ] at hfits ⊢
      omega
    · set xs := wordBytes e.header ++ (wordBytes e.pad ++ e.payload.take j) with hxs
      set ys := (e.payload.drop j).take bytes.length with hys
      set zs := e.payload.drop (j + bytes.length) with hzs
      have hpayload : e.payload = e.payload.take j ++ (ys ++ zs) := by
        rw [hys, hzs, ← List.drop_drop, List.take_append_drop, List.take_append_drop]
      have hbytes : e.block.bytes = xs ++ (ys ++ zs) := by
        have hcongr := congrArg (fun payload => wordBytes e.header ++ (wordBytes e.pad ++ payload)) hpayload
        rw [hxs, List.append_assoc, List.append_assoc]
        exact hcongr
      have hfill : (e.fill j bytes hj).block.bytes = xs ++ (bytes ++ zs) := by
        simp only [Entry.block, hheader, hxs, List.append_assoc]
        rfl
      have hlength : BPF_RINGBUF_HDR_SZ + j = xs.length := by
        simp [hxs, BPF_RINGBUF_HDR_SZ]
        omega
      have hsame : bytes.length = ys.length := by
        simp only [hys, List.length_take, List.length_drop]
        omega
      rw [hbytes] at hholds hfits
      rw [hfill, hlength]
      exact holds_splice hholds hsame (hfits.trans hsize)

def Channel.Consistent (order : ℕ) (s : Channel σ) : Prop :=
  ∃ k, s.LaidOut order k ∧ Place (2 ^ order) s.entries k s.delivered s.consumer

lemma consistent_start (data : Memory) (ctx : σ) : (Channel.start data ctx).Consistent order :=
  ⟨0, ⟨le_rfl, rfl, rfl, by simp [Channel.start], trivial, nofun⟩, rfl⟩

lemma Produces.consistent (h : Produces order s t) (hs : s.Consistent order) : t.Consistent order := by
  obtain ⟨k, hl, hp⟩ := hs
  refine ⟨k, h.laidOut k hl, ?_⟩
  rw [h.delivered, h.consumer]
  exact place_evolves h.evolves hl.le hl.settled hp

lemma place_inner {size k n cnt consPos prodPos : ℕ} {es : List Entry} {delivered : List (List (BitVec 8))}
    (hd : delivered = samples (es.take k)) (hc : consPos = position es k) (hp : prodPos ≤ position es es.length)
    (gotNewData : Bool) : Place size es k delivered (.inner n cnt consPos prodPos gotNewData) := by
  rw [Consumer.inner]
  split_ifs with hlt hgot
  · exact ⟨hd, hc, hlt, hp⟩
  · exact ⟨hd, hc⟩
  · exact hd

lemma Channel.LaidOut.loads {k : ℕ} {e : Entry} (hl : s.LaidOut order k) (he : s.entries[k]? = some e) :
    word (view (2 ^ order) s.data) (position s.entries k % 2 ^ order) = e.header ∧
    bytesAt (view (2 ^ order) s.data) (position s.entries k % 2 ^ order + BPF_RINGBUF_HDR_SZ) e.payload.length =
      e.payload := by
  have hhead : Holds (view (2 ^ order) s.data) (position s.entries k) e.block.bytes := hl.consumer ▸ hl.head he
  have hmod : Holds (view (2 ^ order) s.data) (position s.entries k % 2 ^ order) e.block.bytes := by
    intro i hi
    rw [← hhead i hi, view, view, Nat.mod_add_mod]
  have hpayload := hmod.right.right.bytesAt_eq
  rw [length_wordBytes, length_wordBytes] at hpayload
  exact ⟨hmod.left.word_eq, hpayload⟩

lemma consistent_advance {input : ι} (hs : s.Consistent order) (h : s.advance order sampleCb input = some t) :
    t.Consistent order := by
  obtain ⟨k, hl, hp⟩ := hs
  cases hc : s.consumer with
  | idle => simp [Channel.advance, hc] at h
  | returned res => simp [Channel.advance, hc] at h
  | loadConsumer n =>
    obtain rfl : _ = t := by simpa [Channel.advance, hc] using h
    rw [hc] at hp
    exact ⟨k, hl, hp, hl.consumer⟩
  | loadProducer n cnt consPos =>
    obtain rfl : _ = t := by simpa [Channel.advance, hc] using h
    rw [hc] at hp
    exact ⟨k, hl, place_inner hp.1 hp.2 hl.producer.le false⟩
  | loadLen n cnt consPos prodPos gotNewData =>
    rw [hc] at hp
    obtain ⟨hd, rfl, hlt, hle⟩ := hp
    have hk : k < s.entries.length := (position_lt_iff hl.le).mp (hlt.trans_le hle)
    have he : s.entries[k]? = some s.entries[k] := List.getElem?_eq_getElem hk
    have hword := (hl.loads he).1
    have hnext := position_succ he
    rw [← Entry.roundupLen_header] at hnext
    simp only [Channel.advance, hc, Nat.and_two_pow_sub_one_eq_mod, hword, Entry.busy_iff, Option.some.injEq] at h
    subst h
    refine ⟨k, hl, ?_⟩
    by_cases hbusy : s.entries[k].status = .busy
    · simp only [hbusy, if_true]
      exact hd
    · simp only [hbusy, if_false, Entry.discarded_iff _ hbusy, ← hnext]
      by_cases hsub : s.entries[k].status = .submitted
      · rw [if_pos hsub]
        exact ⟨hd, hle, rfl, _, he, hsub, rfl, rfl⟩
      · rw [if_neg hsub]
        have hnone : s.entries[k].sample? = none := if_neg hsub
        refine ⟨?_, hle, _, he, hbusy, rfl⟩
        rw [samples_succ he, hnone]
        simpa using hd
  | callback n cnt consPos prodPos lenPtr len =>
    rw [hc] at hp
    obtain ⟨hd, hle, rfl, e, he, hsub, rfl, rfl⟩ := hp
    obtain rfl : _ = t := by simpa [Channel.advance, hc] using h
    have hsample := (hl.loads he).2
    rw [← Entry.header_submitted hsub] at hsample
    have hdelivered : s.delivered ++ [bytesAt (view (2 ^ order) s.data) (position s.entries k % 2 ^ order +
        BPF_RINGBUF_HDR_SZ) e.header.toNat] = samples (s.entries.take (k + 1)) := by
      rw [samples_succ he, Entry.sample?, if_pos hsub, hsample, hd]
      rfl
    refine ⟨k, hl, ?_⟩
    split_ifs
    · exact ⟨hdelivered, hle, e, he, by simp [hsub], rfl⟩
    · exact ⟨hdelivered, hle, e, he, by simp [hsub], rfl⟩
  | store n cnt consPos prodPos err =>
    rw [hc] at hp
    obtain ⟨hd, hle, e, he, hset, rfl⟩ := hp
    obtain rfl : _ = t := by simpa [Channel.advance, hc] using h
    refine ⟨k + 1, Layout.store hl he hset, ?_⟩
    cases err with
    | some err => exact hd
    | none =>
      split_ifs
      · exact hd
      · exact place_inner hd rfl hle true

lemma consistent_step (s : Channel σ) (a : RingAct ι) (t : Channel σ) (hs : s.Consistent order)
    (h : s.step order sampleCb a = some t) : t.Consistent order := by
  cases a with
  | reserve pad len => exact (produces_reserve h).consistent hs
  | fill i k bytes => exact (produces_fill h).consistent hs
  | commit i discard => exact (produces_commit h).consistent hs
  | advance input => exact consistent_advance hs h
  | call n =>
    obtain ⟨k, hl, hp⟩ := hs
    cases hc : s.consumer with
    | idle =>
      obtain rfl : _ = t := by simpa [Channel.step, hc] using h
      rw [hc] at hp
      exact ⟨k, hl, hp⟩
    | returned res =>
      obtain rfl : _ = t := by simpa [Channel.step, hc] using h
      rw [hc] at hp
      exact ⟨k, hl, hp⟩
    | _ => simp [Channel.step, hc] at h

lemma Place.delivered {size k : ℕ} {es : List Entry} {delivered : List (List (BitVec 8))} {consumer : Consumer}
    (h : Place size es k delivered consumer) :
    delivered = samples (es.take k) ∨
      delivered = samples (es.take (k + 1)) ∧ ∃ e, es[k]? = some e ∧ e.status ≠ .busy := by
  cases consumer with
  | store n cnt consPos prodPos err =>
    obtain ⟨hd, -, e, he, hset, -⟩ := h
    exact .inr ⟨hd, e, he, hset⟩
  | idle => exact .inl h
  | returned res => exact .inl h
  | loadConsumer n => exact .inl h
  | loadProducer n cnt consPos => exact .inl h.1
  | loadLen n cnt consPos prodPos gotNewData => exact .inl h.1
  | callback n cnt consPos prodPos lenPtr len => exact .inl h.1

lemma Channel.Consistent.delivered (h : s.Consistent order) :
    ∃ k ≤ s.entries.length, (∀ e ∈ s.entries.take k, e.status ≠ .busy) ∧
      s.delivered = (s.entries.take k).filterMap Entry.sample? := by
  obtain ⟨k, hl, hp⟩ := h
  rcases hp.delivered with hd | ⟨hd, e, he, hset⟩
  · exact ⟨k, hl.le, hl.settled, hd⟩
  · have hstored := Layout.store hl he hset
    exact ⟨k + 1, hstored.le, hstored.settled, hd⟩

theorem samples_in_order (order : ℕ) (sampleCb : σ → List (BitVec 8) → ι → σ × ℤ) (data : Memory) (ctx : σ)
    (acts : List (RingAct ι)) (s : Channel σ)
    (hrun : runs (Channel.step order sampleCb) (.start data ctx) acts = some s) :
    ∃ k ≤ s.entries.length, (∀ e ∈ s.entries.take k, e.status ≠ .busy) ∧
      s.delivered = (s.entries.take k).filterMap Entry.sample? := by
  have hs : s.Consistent order := invariant_runs consistent_step (consistent_start data ctx) hrun
  exact hs.delivered

def countSamples (ctx : ℕ) (_ : List (BitVec 8)) (_ : Unit) : ℕ × ℤ := (ctx + 1, 0)

def overtaking : List (RingAct Unit) :=
  [.reserve 0 1, .reserve 0 1, .fill 1 0 [2], .commit 1 false, .call 9, .advance (), .advance (), .advance (),
    .fill 0 0 [1], .commit 0 false]

def handover : List (RingAct Unit) := List.replicate 9 (.advance ())

theorem samples_in_order_overtaking :
    ∃ s, runs (Channel.step 6 countSamples) (.start (fun _ => 0) 0) overtaking = some s ∧ s.delivered = [] ∧
      s.entries.map Entry.status = [.submitted, .submitted] ∧ ∃ k ≤ s.entries.length,
      (∀ e ∈ s.entries.take k, e.status ≠ .busy) ∧ s.delivered = (s.entries.take k).filterMap Entry.sample? := by
  have hrun := runs_reached (Channel.step 6 countSamples) (.start (fun _ => 0) 0) overtaking (by decide +kernel)
  exact ⟨_, hrun, by decide +kernel, by decide +kernel, samples_in_order 6 countSamples _ 0 overtaking _ hrun⟩

def Draining (n d consumerPos : ℕ) : Consumer → Prop
  | .idle => False
  | .loadConsumer m | .loadProducer m _ _ => m = n
  | .loadLen m _ _ prodPos _ | .callback m _ _ prodPos _ _ => m = n ∧ d ≤ prodPos
  | .store m _ _ prodPos err => (m = n ∧ d ≤ prodPos) ∧ ∀ e ∈ err, e < 0
  | .returned res => 0 ≤ res → res < n → d ≤ consumerPos

structure Channel.Drains (order n : ℕ) (ps : List Entry) (s : Channel σ) : Prop where
  consistent : s.Consistent order
  before : ps <+: s.entries
  draining : Draining n (extent (ps.map Entry.block)) s.consumerPos s.consumer

lemma draining_inner {n d cnt consPos prodPos : ℕ} (hd : d ≤ prodPos) (gotNewData : Bool) :
    Draining n d consPos (.inner n cnt consPos prodPos gotNewData) := by
  rw [Consumer.inner]
  split_ifs with hlt hgot
  · exact ⟨rfl, hd⟩
  · exact rfl
  · exact fun _ _ => by omega

lemma extent_of_prefix {ps es : List Entry} (h : ps <+: es) :
    extent (ps.map Entry.block) = position es ps.length := by
  rw [position, ← List.prefix_iff_eq_take.mp h]

section Draining

variable {n : ℕ} {ps : List Entry}

lemma Produces.drains (hps : ∀ e ∈ ps, e.status ≠ .busy) (h : Produces order s t) (hs : s.Drains order n ps) :
    t.Drains order n ps := by
  have htake := List.prefix_iff_eq_take.mp hs.before
  refine ⟨h.consistent hs.consistent, ?_, ?_⟩
  · rw [List.prefix_iff_eq_take, h.evolves.take_eq hs.before.length_le (by rwa [← htake]), ← htake]
  · rw [h.consumer, h.consumerPos]
    exact hs.draining

lemma entries_advance {input : ι} (h : s.advance order sampleCb input = some t) : t.entries = s.entries := by
  cases hc : s.consumer with
  | idle => simp [Channel.advance, hc] at h
  | returned res => simp [Channel.advance, hc] at h
  | _ =>
    obtain rfl : _ = t := by simpa [Channel.advance, hc] using h
    rfl

lemma drains_advance {input : ι} (hps : ∀ e ∈ ps, e.status ≠ .busy) (hs : s.Drains order n ps)
    (h : s.advance order sampleCb input = some t) : t.Drains order n ps := by
  refine ⟨consistent_advance hs.consistent h, entries_advance h ▸ hs.before, ?_⟩
  have hd := hs.draining
  obtain ⟨k, hl, hp⟩ := hs.consistent
  have hextent := extent_of_prefix hs.before
  have hproducer : extent (ps.map Entry.block) ≤ s.producerPos := by
    rw [hextent, hl.producer]
    exact position_le _ hs.before.length_le
  cases hc : s.consumer with
  | idle => simp [Channel.advance, hc] at h
  | returned res => simp [Channel.advance, hc] at h
  | loadConsumer m =>
    obtain rfl : _ = t := by simpa [Channel.advance, hc] using h
    rw [hc] at hd
    exact hd
  | loadProducer m cnt consPos =>
    obtain rfl : _ = t := by simpa [Channel.advance, hc] using h
    rw [hc] at hd hp
    obtain rfl : m = n := hd
    obtain rfl : consPos = s.consumerPos := hp.2.trans hl.consumer.symm
    exact draining_inner hproducer false
  | loadLen m cnt consPos prodPos gotNewData =>
    rw [hc] at hd hp
    obtain ⟨rfl, hprod⟩ := hd
    obtain ⟨-, rfl, hlt, hle⟩ := hp
    have hk : k < s.entries.length := (position_lt_iff hl.le).mp (hlt.trans_le hle)
    have he : s.entries[k]? = some s.entries[k] := List.getElem?_eq_getElem hk
    simp only [Channel.advance, hc, Nat.and_two_pow_sub_one_eq_mod, (hl.loads he).1, Entry.busy_iff,
      Option.some.injEq] at h
    subst h
    by_cases hbusy : s.entries[k].status = .busy
    · -- a busy record is none of `ps`, so the consumer has left those behind
      simp only [hbusy, if_true]
      intro _ _
      have hkps : ps.length ≤ k := by
        by_contra hlt
        have hmem : s.entries[k] ∈ ps := by
          rw [List.prefix_iff_eq_take.mp hs.before, List.mem_take_iff_getElem]
          exact ⟨k, by omega, rfl⟩
        exact hps _ hmem hbusy
      rw [hextent, hl.consumer]
      exact position_le _ hkps
    · simp only [hbusy, if_false]
      split_ifs
      · exact ⟨rfl, hprod⟩
      · exact ⟨⟨rfl, hprod⟩, nofun⟩
  | callback m cnt consPos prodPos lenPtr len =>
    obtain rfl : _ = t := by simpa [Channel.advance, hc] using h
    rw [hc] at hd
    split_ifs with herr
    · exact ⟨hd, by simpa using herr⟩
    · exact ⟨hd, nofun⟩
  | store m cnt consPos prodPos err =>
    obtain rfl : _ = t := by simpa [Channel.advance, hc] using h
    rw [hc] at hd
    obtain ⟨⟨rfl, hprod⟩, herr⟩ := hd
    cases err with
    | some err =>
      have hneg : err < 0 := herr err rfl
      exact fun hnonneg _ => by omega
    | none =>
      split_ifs with hfull
      · exact fun _ hlt => by omega
      · exact draining_inner hprod true

lemma drains_runs {acts : List (RingAct ι)} (hps : ∀ e ∈ ps, e.status ≠ .busy) (hs : s.Drains order n ps)
    (hacts : ∀ m, .call m ∉ acts) (h : runs (Channel.step order sampleCb) s acts = some t) :
    t.Drains order n ps := by
  induction acts generalizing s with
  | nil =>
    cases h
    exact hs
  | cons a acts ih =>
    obtain ⟨u, hu, hr⟩ := runs_cons.mp h
    refine ih ?_ (fun m hm => hacts m (List.mem_cons_of_mem _ hm)) hr
    cases a with
    | reserve pad len => exact (produces_reserve hu).drains hps hs
    | fill i k bytes => exact (produces_fill hu).drains hps hs
    | commit i discard => exact (produces_commit hu).drains hps hs
    | advance input => exact drains_advance hps hs hu
    | call m => exact absurd List.mem_cons_self (hacts m)

end Draining

theorem process_ring_drains (order : ℕ) (sampleCb : σ → List (BitVec 8) → ι → σ × ℤ) (data : Memory) (ctx : σ)
    (acts rest : List (RingAct ι)) (s t : Channel σ) (n : ℕ) (res : ℤ)
    (hrun : runs (Channel.step order sampleCb) (.start data ctx) acts = some s)
    (hcall : runs (Channel.step order sampleCb) s (.call n :: rest) = some t) (hrest : ∀ m, .call m ∉ rest)
    (hres : t.consumer = .returned res) (hnonneg : 0 ≤ res) (hlt : res < n) :
    (s.entries.takeWhile (·.status ≠ .busy)).filterMap Entry.sample? <+: t.delivered := by
  set ps := s.entries.takeWhile (·.status ≠ .busy) with hps
  have hsettled : ∀ e ∈ ps, e.status ≠ .busy := by
    intro e he
    simpa using List.all_eq_true.mp List.all_takeWhile e he
  have hs : s.Consistent order := invariant_runs consistent_step (consistent_start data ctx) hrun
  obtain ⟨u, hu, hr⟩ := runs_cons.mp hcall
  have hcalled : u = { s with consumer := .loadConsumer n } := by
    cases hc : s.consumer <;> simp [Channel.step, hc] at hu <;> exact hu.symm
  have hdrains : u.Drains order n ps := by
    refine ⟨consistent_step s _ u hs hu, ?_, ?_⟩
    · rw [hcalled]
      exact List.takeWhile_prefix _
    · rw [hcalled]
      exact rfl
  have ht := drains_runs hsettled hdrains hrest hr
  obtain ⟨k, hl, hp⟩ := ht.consistent
  have hd := ht.draining
  rw [hres] at hd hp
  have hpast : position t.entries ps.length ≤ position t.entries k := by
    rw [← extent_of_prefix ht.before, ← hl.consumer]
    exact hd hnonneg hlt
  have hle : ps.length ≤ k := by
    by_contra hgt
    have hk : k < t.entries.length := by
      have hlen := ht.before.length_le
      omega
    have hsucc := position_succ (List.getElem?_eq_getElem hk)
    have hwidth := t.entries[k].width_pos
    have hmono := position_le t.entries (show k + 1 ≤ ps.length by omega)
    omega
  have hprefix : ps <+: t.entries.take k := by
    rw [List.prefix_iff_eq_take.mp ht.before]
    exact List.take_prefix_take_left hle
  obtain ⟨us, hus⟩ := hprefix
  have hdelivered : t.delivered = samples (t.entries.take k) := hp
  rw [hdelivered, ← hus, samples, List.filterMap_append]
  exact List.prefix_append _ _

theorem process_ring_drains_handover :
    ∃ s t, runs (Channel.step 6 countSamples) (.start (fun _ => 0) 0) overtaking = some s ∧
      runs (Channel.step 6 countSamples) s (.call 9 :: handover) = some t ∧ t.consumer = .returned 2 ∧
      [[1], [2]] <+: t.delivered := by
  have hs := runs_reached (Channel.step 6 countSamples) (.start (fun _ => 0) 0) overtaking (by decide +kernel)
  set s := reached (Channel.step 6 countSamples) (.start (fun _ => 0) 0) overtaking with hdef
  have ht := runs_reached (Channel.step 6 countSamples) s (.call 9 :: handover) (by decide +kernel)
  have hres : (reached (Channel.step 6 countSamples) s (.call 9 :: handover)).consumer = .returned 2 := by
    decide +kernel
  have hpending : (s.entries.takeWhile (·.status ≠ .busy)).filterMap Entry.sample? = [[1], [2]] := by
    decide +kernel
  have hcalls : ∀ m, .call m ∉ handover := by simp [handover]
  have hdrains := process_ring_drains 6 countSamples _ 0 overtaking handover _ _ 9 2 hs ht hcalls hres (by decide)
    (by decide)
  rw [hpending] at hdrains
  exact ⟨s, _, hs, ht, hres, hdrains⟩

end Steps

end PacketFilter.Logging
