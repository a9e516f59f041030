import Mathlib.Data.List.AList
import Mathlib.Tactic

/-! Singly linked lists in a heap of cells: building one at its end, going through it and deleting it. -/

namespace PacketFilter.Library.LinkedLists

structure Cell (α : Type) where
  value : α
  next : Option ℕ
  deriving DecidableEq

abbrev Heap (α : Type) := AList (fun _ : ℕ => Cell α)

/-- Where the next cell is put: any place that is free now, also one that held a cell before. -/
structure Allocator (α : Type) where
  place : Heap α → ℕ
  unused : ∀ h, place h ∉ h

structure Chain where
  head : Option ℕ
  tail : Option ℕ

variable {α σ : Type}

section Operations

/-- `p->next = q`, undefined on a null or dangling `p`. -/
def setNext (h : Heap α) (p : Option ℕ) (q : ℕ) : Option (Heap α) :=
  p.bind (fun a => (h.lookup a).map (fun cell => h.insert a { cell with next := some q }))

namespace Chain

def empty : Chain := ⟨none, none⟩

def push (alloc : Allocator α) (x : α) (c : Chain) (h : Heap α) : Option (Chain × Heap α) :=
  let p := alloc.place h
  match c.head with
  | none => some (⟨some p, some p⟩, h.insert p ⟨x, none⟩)
  | some _ => (setNext (h.insert p ⟨x, none⟩) c.tail p).map (fun h => (⟨c.head, some p⟩, h))

end Chain

/-- Deletes the cells from `p` on, reading each link before its cell goes; cut off after `fuel` cells. -/
def freeList : (fuel : ℕ) → Option ℕ → Heap α → Option (Heap α)
  | _, none, h => some h
  | 0, some _, _ => none
  | fuel + 1, some p, h => (h.lookup p).bind (fun cell => freeList fuel cell.next (h.erase p))

def search (test : α → Bool) : (fuel : ℕ) → Option ℕ → Heap α → Option (Option α)
  | _, none, _ => some none
  | 0, some _, _ => none
  | fuel + 1, some p, h =>
    (h.lookup p).bind (fun cell =>
      if test cell.value then some (some cell.value) else search test fuel cell.next h)

/-- Runs `body` for each value from `p` on until it says to stop; the link is read after the body. -/
def forEach (heapOf : σ → Heap α) (body : α → σ → Option (Bool × σ)) :
    (fuel : ℕ) → Option ℕ → σ → Option (Bool × σ)
  | _, none, s => some (true, s)
  | 0, some _, _ => none
  | fuel + 1, some p, s =>
    ((heapOf s).lookup p).bind (fun cell =>
      (body cell.value s).bind (fun r =>
        if r.1 then ((heapOf r.2).lookup p).bind (fun cell => forEach heapOf body fuel cell.next r.2)
        else some (false, r.2)))

def eachOf (f : α → σ → Bool × σ) : List α → σ → Bool × σ
  | [], s => (true, s)
  | x :: xs, s => if (f x s).1 then eachOf f xs (f x s).2 else (false, (f x s).2)

end Operations

def Segment (h : Heap α) : Option ℕ → List (ℕ × α) → Option ℕ → Prop
  | p, [], q => p = q
  | p, (a, x) :: cells, q => p = some a ∧ ∃ next, h.lookup a = some ⟨x, next⟩ ∧ Segment h next cells q

def places (cells : List (ℕ × α)) : List ℕ := cells.map Prod.fst

def values (cells : List (ℕ × α)) : List α := cells.map Prod.snd

section Segments

variable {h h' : Heap α} {p q : Option ℕ} {cells more : List (ℕ × α)}

lemma segment_append :
    Segment h p (cells ++ more) q ↔ ∃ r, Segment h p cells r ∧ Segment h r more q := by
  induction cells generalizing p with
  | nil => simp [Segment]
  | cons cell cells ih =>
    simp only [List.cons_append, Segment, ih]
    constructor
    · rintro ⟨hp, next, hn, r, hr, hs⟩
      exact ⟨r, ⟨hp, next, hn, hr⟩, hs⟩
    · rintro ⟨r, ⟨hp, next, hn, hr⟩, hs⟩
      exact ⟨hp, next, hn, r, hr, hs⟩

lemma Segment.congr (hseg : Segment h p cells q) (hsame : ∀ a ∈ places cells, h'.lookup a = h.lookup a) :
    Segment h' p cells q := by
  induction cells generalizing p with
  | nil => exact hseg
  | cons cell cells ih =>
    obtain ⟨hp, next, hn, hrest⟩ := hseg
    refine ⟨hp, next, ?_, ih hrest (fun a ha => hsame a (List.mem_cons_of_mem _ ha))⟩
    rw [hsame cell.1 List.mem_cons_self, hn]

lemma freeList_segment {fuel : ℕ} (hseg : Segment h p cells none) (hnodup : (places cells).Nodup)
    (hfuel : cells.length ≤ fuel) :
    ∃ h', freeList fuel p h = some h' ∧ (∀ a ∈ places cells, a ∉ h') ∧
      ∀ a, a ∉ places cells → h'.lookup a = h.lookup a := by
  induction cells generalizing p h fuel with
  | nil =>
    obtain rfl : p = none := hseg
    have hfree : freeList fuel none h = some h := by cases fuel <;> rfl
    exact ⟨h, hfree, List.forall_mem_nil _, fun _ _ => rfl⟩
  | cons cell cells ih =>
    obtain ⟨a, x⟩ := cell
    obtain ⟨rfl, next, hn, hrest⟩ := hseg
    obtain ⟨hnot, hnodup⟩ := List.nodup_cons.mp hnodup
    obtain ⟨fuel, rfl⟩ := Nat.exists_eq_add_one.mpr (Nat.lt_of_lt_of_le (Nat.succ_pos cells.length) hfuel)
    have hrest' : Segment (h.erase a) next cells none := by
      refine hrest.congr (fun b hb => AList.lookup_erase_ne ?_)
      rintro rfl
      exact hnot hb
    obtain ⟨h', hfree, hgone, hkept⟩ := ih hrest' hnodup (by simpa using hfuel)
    refine ⟨h', by simp [freeList, hn, hfree], ?_, ?_⟩
    · intro b hb
      rcases List.mem_cons.mp hb with rfl | hb
      · rw [← AList.lookup_eq_none, hkept _ hnot, AList.lookup_erase]
      · exact hgone b hb
    · intro b hb
      obtain ⟨hne, hb⟩ := List.ne_and_not_mem_of_not_mem_cons hb
      rw [hkept b hb, AList.lookup_erase_ne hne]

lemma search_segment (test : α → Bool) {fuel : ℕ} (hseg : Segment h p cells none) (hfuel : cells.length ≤ fuel) :
    search test fuel p h = some ((values cells).find? test) := by
  induction cells generalizing p fuel with
  | nil =>
    obtain rfl : p = none := hseg
    cases fuel <;> rfl
  | cons cell cells ih =>
    obtain ⟨a, x⟩ := cell
    obtain ⟨rfl, next, hn, hrest⟩ := hseg
    obtain ⟨fuel, rfl⟩ := Nat.exists_eq_add_one.mpr (Nat.lt_of_lt_of_le (Nat.succ_pos cells.length) hfuel)
    rw [search, hn]
    simp only [Option.bind_some, values, List.map_cons, List.find?_cons]
    cases test x with
    | true => rfl
    | false =>
      rw [if_neg (by decide)]
      exact ih hrest (by simpa using hfuel)

lemma forEach_segment {heapOf : σ → Heap α} {body : α → σ → Option (Bool × σ)} {f : α → σ → Bool × σ}
    {I : σ → Prop}
    {fuel : ℕ} (hheap : ∀ s, I s → heapOf s = h) (hbody : ∀ x s, I s → body x s = some (f x s) ∧ I (f x s).2)
    (hseg : Segment h p cells none) (hfuel : cells.length ≤ fuel) {s : σ} (hs : I s) :
    forEach heapOf body fuel p s = some (eachOf f (values cells) s) ∧ I (eachOf f (values cells) s).2 := by
  induction cells generalizing p fuel s with
  | nil =>
    obtain rfl : p = none := hseg
    exact ⟨by cases fuel <;> rfl, hs⟩
  | cons cell cells ih =>
    obtain ⟨a, x⟩ := cell
    obtain ⟨rfl, next, hn, hrest⟩ := hseg
    obtain ⟨fuel, rfl⟩ := Nat.exists_eq_add_one.mpr (Nat.lt_of_lt_of_le (Nat.succ_pos cells.length) hfuel)
    obtain ⟨hx, hkept⟩ := hbody x s hs
    rw [forEach, hheap s hs, hn]
    simp only [Option.bind_some, hx, hheap _ hkept, hn, values, List.map_cons, eachOf]
    cases (f x s).1 with
    | true => exact ih hrest (by simpa using hfuel) hkept
    | false => exact ⟨rfl, hkept⟩

end Segments

structure Building (h : Heap α) (p : Option ℕ) (old : List (ℕ × α)) (c : Chain) (fresh : List (ℕ × α)) : Prop where
  settled : Segment h p old none
  chained : Segment h c.head fresh none
  tail : c.tail = (places fresh).getLast?
  nodup : (places (old ++ fresh)).Nodup
  live : ∀ a, a ∈ h ↔ a ∈ places (old ++ fresh)

structure Exactly (h : Heap α) (p : Option ℕ) (cells : List (ℕ × α)) : Prop where
  segment : Segment h p cells none
  nodup : (places cells).Nodup
  live : ∀ a, a ∈ h ↔ a ∈ places cells

section Building

variable {h : Heap α} {p : Option ℕ} {old fresh cells : List (ℕ × α)} {c : Chain}

@[simp] lemma places_append (xs ys : List (ℕ × α)) : places (xs ++ ys) = places xs ++ places ys := List.map_append

@[simp] lemma values_append (xs ys : List (ℕ × α)) : values (xs ++ ys) = values xs ++ values ys := List.map_append

lemma length_values (cells : List (ℕ × α)) : (values cells).length = cells.length := List.length_map _

lemma exactly_empty : Exactly (∅ : Heap α) none [] := ⟨rfl, List.nodup_nil, fun a => by simp [places]⟩

lemma Exactly.building (he : Exactly h p old) : Building h p old .empty [] :=
  ⟨he.segment, rfl, rfl, by simpa using he.nodup, by simpa using he.live⟩

lemma Building.exactly (hb : Building h p old c []) : Exactly h p old :=
  ⟨hb.settled, by simpa using hb.nodup, by simpa using hb.live⟩

lemma Building.push (hb : Building h p old c fresh) (alloc : Allocator α) (x : α) :
    ∃ c' h', c.push alloc x h = some (c', h') ∧ Building h' p old c' (fresh ++ [(alloc.place h, x)]) := by
  set q := alloc.place h with hq
  have hunused : q ∉ places (old ++ fresh) := fun hmem => alloc.unused h ((hb.live q).mpr hmem)
  have hnodup : (places (old ++ (fresh ++ [(q, x)]))).Nodup := by
    rw [← List.append_assoc, places_append]
    refine hb.nodup.append (List.nodup_singleton q) ?_
    simpa [places] using hunused
  have hne : ∀ a ∈ places (old ++ fresh), a ≠ q := by
    rintro a ha rfl
    exact hunused ha
  rcases List.eq_nil_or_concat fresh with rfl | ⟨front, ⟨a, y⟩, rfl⟩
  · -- the first cell is also the last one
    have hhead : c.head = none := hb.chained
    refine ⟨⟨some q, some q⟩, h.insert q ⟨x, none⟩, by simp [Chain.push, hhead, hq], ?_, ?_, rfl, hnodup, ?_⟩
    · exact hb.settled.congr (fun b hbm => AList.lookup_insert_ne (hne b (by simp [hbm])))
    · exact ⟨rfl, none, AList.lookup_insert _, rfl⟩
    · intro b
      rw [AList.mem_insert, hb.live]
      simp [places, or_comm, eq_comm]
  · -- the link of the last cell is set
    rw [List.concat_eq_append] at *
    obtain ⟨r, hfront, ⟨rfl, next, hlast, hnext⟩⟩ := segment_append.mp hb.chained
    obtain ⟨b, hhead⟩ : ∃ b, c.head = some b := by
      cases front with
      | nil => exact ⟨a, hfront⟩
      | cons cell front => exact ⟨cell.1, hfront.1⟩
    have htail : c.tail = some a := by
      rw [hb.tail]
      simp [places]
    have haq : a ≠ q := hne a (by simp [places])
    have hfresh : a ∉ places old ∧ a ∉ places front := by
      have hd := hb.nodup
      simp only [places_append] at hd
      rw [← List.append_assoc] at hd
      have hdis : a ∉ places old ++ places front :=
        fun hmem => List.disjoint_of_nodup_append hd hmem List.mem_cons_self
      simpa using hdis
    set h' := (h.insert q ⟨x, none⟩).insert a ⟨y, some q⟩ with hh'
    have hset : setNext (h.insert q ⟨x, none⟩) c.tail q = some h' := by
      simp [setNext, htail, AList.lookup_insert_ne haq, hlast, hh']
    have hsame : ∀ b, b ≠ a → b ≠ q → h'.lookup b = h.lookup b := by
      intro b hba hbq
      rw [hh', AList.lookup_insert_ne hba, AList.lookup_insert_ne hbq]
    refine ⟨⟨c.head, some q⟩, h', by simp [Chain.push, hhead, ← hq, hset], ?_, ?_, by simp [places], hnodup, ?_⟩
    · refine hb.settled.congr (fun b hbm => hsame b ?_ (hne b (by simp [hbm])))
      rintro rfl
      exact hfresh.1 hbm
    · rw [List.append_assoc]
      refine segment_append.mpr ⟨some a, hfront.congr (fun b hbm => hsame b ?_ (hne b (by simp [hbm]))), ?_⟩
      · rintro rfl
        exact hfresh.2 hbm
      · refine ⟨rfl, some q, AList.lookup_insert _, rfl, none, ?_, rfl⟩
        rw [hh', AList.lookup_insert_ne (Ne.symm haq), AList.lookup_insert]
    · intro b
      rw [hh', AList.mem_insert, AList.mem_insert, hb.live]
      simp only [places, List.map_append, List.mem_append, List.map_cons, List.map_nil, List.mem_singleton]
      tauto

lemma Building.free (hb : Building h p old c fresh) {fuel : ℕ} (hfuel : old.length ≤ fuel) :
    ∃ h', freeList fuel p h = some h' ∧ Exactly h' c.head fresh := by
  have hnodup := hb.nodup
  rw [places_append] at hnodup
  obtain ⟨hold, hfresh, hdis⟩ := List.nodup_append'.mp hnodup
  obtain ⟨h', hfree, hgone, hkept⟩ := freeList_segment hb.settled hold hfuel
  refine ⟨h', hfree, hb.chained.congr (fun a ha => hkept a (fun hmem => hdis hmem ha)), hfresh, ?_⟩
  intro a
  by_cases ha : a ∈ places old
  · exact iff_of_false (hgone a ha) (fun hmem => hdis ha hmem)
  · rw [← AList.lookup_isSome, hkept a ha, AList.lookup_isSome, hb.live, places_append, List.mem_append]
    simp [ha]

lemma Exactly.free (he : Exactly h p cells) {fuel : ℕ} (hfuel : cells.length ≤ fuel) :
    ∃ h', freeList fuel p h = some h' ∧ ∀ a, a ∉ h' := by
  obtain ⟨h', hfree, hgone, hkept⟩ := freeList_segment he.segment he.nodup hfuel
  refine ⟨h', hfree, fun a => ?_⟩
  by_cases ha : a ∈ places cells
  · exact hgone a ha
  · rw [← AList.lookup_eq_none, hkept a ha, AList.lookup_eq_none, he.live]
    exact ha

end Building

end PacketFilter.Library.LinkedLists
