import Mathlib.Data.Finset.Dedup
import Mathlib.Data.List.AList
import Mathlib.Tactic

/-! Finite maps that refuse a new key when they are full, with values or with cells behind the keys. -/

namespace PacketFilter.Library

structure BoundedMap (κ ν : Type) [DecidableEq κ] (cap : ℕ) where
  entries : AList (fun _ : κ => ν)
  within : entries.keys.length ≤ cap

namespace BoundedMap

variable {κ ν : Type} [DecidableEq κ] {cap : ℕ}

def empty : BoundedMap κ ν cap := ⟨∅, by simp⟩

def get? (m : BoundedMap κ ν cap) (k : κ) : Option ν := m.entries.lookup k

def size (m : BoundedMap κ ν cap) : ℕ := m.entries.keys.length

def Full (m : BoundedMap κ ν cap) : Prop := m.size = cap

instance (m : BoundedMap κ ν cap) : Decidable m.Full := inferInstanceAs (Decidable (_ = _))

lemma get?_isSome_iff (m : BoundedMap κ ν cap) (k : κ) : (m.get? k).isSome ↔ k ∈ m.entries.keys := by
  rw [get?, AList.lookup_isSome, AList.mem_keys]

instance (priority := 2000) (m : BoundedMap κ ν cap) (p : κ → Prop) [DecidablePred p] :
    Decidable (∀ k, (m.get? k).isSome → p k) :=
  decidable_of_iff (∀ k ∈ m.entries.keys, p k) (forall_congr' (fun k => by rw [get?_isSome_iff]))

lemma length_insert (m : BoundedMap κ ν cap) (k : κ) (v : ν) (h : (m.get? k).isSome ∨ ¬ m.Full) :
    (m.entries.insert k v).keys.length ≤ cap := by
  have hw := m.within
  rw [AList.keys_insert, List.length_cons]
  by_cases hk : k ∈ m.entries.keys
  · have hp : 0 < m.entries.keys.length := List.length_pos_of_mem hk
    rw [List.length_erase_of_mem hk]
    omega
  · rw [List.erase_of_not_mem hk]
    have hf : ¬ m.Full := h.resolve_left (by
      simpa [get?, AList.lookup_isSome, AList.mem_keys] using hk)
    simp only [Full, size] at hf
    omega

def update (m : BoundedMap κ ν cap) (k : κ) (v : ν) : Option (BoundedMap κ ν cap) :=
  if h : (m.get? k).isSome ∨ ¬ m.Full then some ⟨m.entries.insert k v, m.length_insert k v h⟩ else none

def erase (m : BoundedMap κ ν cap) (k : κ) : BoundedMap κ ν cap :=
  ⟨m.entries.erase k, by
    rw [AList.keys_erase]
    exact List.length_erase_le.trans m.within⟩

@[simp] lemma get?_empty (k : κ) : (empty : BoundedMap κ ν cap).get? k = none := rfl

lemma update_eq_none (m : BoundedMap κ ν cap) (k : κ) (v : ν) :
    m.update k v = none ↔ m.get? k = none ∧ m.Full := by
  simp [update, not_or]

lemma get?_update {m m' : BoundedMap κ ν cap} {k : κ} {v : ν} (h : m.update k v = some m') (j : κ) :
    m'.get? j = if j = k then some v else m.get? j := by
  simp only [update, Option.dite_none_right_eq_some, Option.some.injEq] at h
  obtain ⟨_, rfl⟩ := h
  by_cases hj : j = k
  · subst j
    simp [get?]
  · simp [get?, hj, AList.lookup_insert_ne hj]

lemma get?_erase (m : BoundedMap κ ν cap) (k j : κ) :
    (m.erase k).get? j = if j = k then none else m.get? j := by
  by_cases hj : j = k
  · subst j
    simp [get?, erase]
  · simp [get?, erase, hj, AList.lookup_erase_ne hj]

lemma size_update {m m' : BoundedMap κ ν cap} {k : κ} {v : ν} (h : m.update k v = some m') :
    m'.size = if (m.get? k).isSome then m.size else m.size + 1 := by
  simp only [update, Option.dite_none_right_eq_some, Option.some.injEq] at h
  obtain ⟨_, rfl⟩ := h
  simp only [size, AList.keys_insert, List.length_cons]
  by_cases hk : k ∈ m.entries.keys
  · have hp : 0 < m.entries.keys.length := List.length_pos_of_mem hk
    have hs : (m.get? k).isSome := AList.lookup_isSome.mpr hk
    rw [List.length_erase_of_mem hk, if_pos hs]
    omega
  · have hs : ¬ (m.get? k).isSome := fun hs => hk (AList.lookup_isSome.mp hs)
    rw [List.erase_of_not_mem hk, if_neg hs]

lemma exists_update_empty (k : κ) (v : ν) :
    ∃ m : BoundedMap κ ν (cap + 1), empty.update k v = some m ∧ m.get? k = some v := by
  have hn : (empty : BoundedMap κ ν (cap + 1)).update k v ≠ none := by
    rw [ne_eq, update_eq_none]
    exact fun h => absurd h.2 (by simp [Full, size, empty])
  obtain ⟨m, hm⟩ := Option.ne_none_iff_exists'.mp hn
  exact ⟨m, hm, by simp [get?_update hm]⟩

end BoundedMap

/-- A bounded map whose keys own cells: a lookup gives the address of the cell, and an update gives
the key a fresh cell, so that an address taken before still names the replaced value. -/
structure CellMap (κ ν : Type) [DecidableEq κ] (cap : ℕ) where
  cells : List ν
  index : BoundedMap κ ℕ cap
  bounded : ∀ k p, index.get? k = some p → p < cells.length
  separate : ∀ k j p, index.get? k = some p → index.get? j = some p → k = j

namespace CellMap

variable {κ ν : Type} [DecidableEq κ] {cap : ℕ}

def empty : CellMap κ ν cap := ⟨[], .empty, by simp, by simp⟩

def lookup (m : CellMap κ ν cap) (k : κ) : Option ℕ := m.index.get? k

def get? (m : CellMap κ ν cap) (k : κ) : Option ν := (m.lookup k).bind (m.cells[·]?)

def keys (m : CellMap κ ν cap) : Finset κ := m.index.entries.keys.toFinset

def Full (m : CellMap κ ν cap) : Prop := m.index.Full

instance (m : CellMap κ ν cap) : Decidable m.Full := inferInstanceAs (Decidable m.index.Full)

def modify (m : CellMap κ ν cap) (p : ℕ) (f : ν → ν) : CellMap κ ν cap where
  cells := m.cells.modify p f
  index := m.index
  bounded k q h := by simpa using m.bounded k q h
  separate := m.separate

def update (m : CellMap κ ν cap) (k : κ) (v : ν) : CellMap κ ν cap :=
  match h : m.index.update k m.cells.length with
  | none => m
  | some index =>
    { cells := m.cells ++ [v]
      index := index
      bounded := by
        intro j p hj
        rw [BoundedMap.get?_update h] at hj
        split_ifs at hj
        · cases hj
          simp
        · have hp := m.bounded j p hj
          simp only [List.length_append, List.length_singleton]
          omega
      separate := by
        intro i j p hi hj
        rw [BoundedMap.get?_update h] at hi hj
        split_ifs at hi hj with h1 h2 h2
        · rw [h1, h2]
        · cases hi
          exact absurd (m.bounded j _ hj) (lt_irrefl _)
        · cases hj
          exact absurd (m.bounded i _ hi) (lt_irrefl _)
        · exact m.separate i j p hi hj }

@[simp] lemma lookup_empty (k : κ) : (empty : CellMap κ ν cap).lookup k = none := rfl

@[simp] lemma get?_empty (k : κ) : (empty : CellMap κ ν cap).get? k = none := rfl

lemma get?_eq_none (m : CellMap κ ν cap) (k : κ) : m.get? k = none ↔ m.lookup k = none := by
  cases h : m.lookup k with
  | none => simp [get?, h]
  | some p =>
    have hp := m.bounded k p h
    simp [get?, h, hp]

lemma mem_keys (m : CellMap κ ν cap) (k : κ) : k ∈ m.keys ↔ m.get? k ≠ none := by
  rw [ne_eq, get?_eq_none, lookup, BoundedMap.get?, AList.lookup_eq_none, not_not, keys, List.mem_toFinset]
  rfl

lemma get?_of_lookup {m : CellMap κ ν cap} {k : κ} {p : ℕ} (h : m.lookup k = some p) :
    m.get? k = m.cells[p]? := by
  simp [get?, h]

def Refuses (m : CellMap κ ν cap) (k : κ) : Prop := m.lookup k = none ∧ m.Full

instance (m : CellMap κ ν cap) (k : κ) : Decidable (m.Refuses k) := inferInstanceAs (Decidable (_ ∧ _))

lemma update_of_refuses {m : CellMap κ ν cap} {k : κ} (h : m.Refuses k) (v : ν) : m.update k v = m := by
  have hn : m.index.update k m.cells.length = none := (m.index.update_eq_none k _).mpr h
  unfold update
  split
  · rfl
  · rename_i index hs
    simp [hn] at hs

lemma update_of_not_refuses {m : CellMap κ ν cap} {k : κ} (h : ¬ m.Refuses k) (v : ν) :
    ∃ index, m.index.update k m.cells.length = some index ∧
      (m.update k v).index = index ∧ (m.update k v).cells = m.cells ++ [v] := by
  unfold update
  split
  · rename_i hn
    exact absurd ((m.index.update_eq_none k _).mp hn) h
  · rename_i index hs
    exact ⟨index, hs, rfl, rfl⟩

lemma lookup_update {m : CellMap κ ν cap} {k : κ} (h : ¬ m.Refuses k) (v : ν) (j : κ) :
    (m.update k v).lookup j = if j = k then some m.cells.length else m.lookup j := by
  obtain ⟨index, hu, hi, _⟩ := update_of_not_refuses h v
  rw [lookup, hi, BoundedMap.get?_update hu]
  rfl

lemma get?_update {m : CellMap κ ν cap} {k : κ} (h : ¬ m.Refuses k) (v : ν) (j : κ) :
    (m.update k v).get? j = if j = k then some v else m.get? j := by
  obtain ⟨_, _, _, hc⟩ := update_of_not_refuses h v
  rw [get?, lookup_update h, hc]
  split_ifs with hj
  · simp
  · cases hl : m.lookup j with
    | none => simp [get?, hl]
    | some p => simp [get?, hl, List.getElem?_append_left (m.bounded j p hl)]

@[simp] lemma lookup_modify (m : CellMap κ ν cap) (p : ℕ) (f : ν → ν) (k : κ) :
    (m.modify p f).lookup k = m.lookup k := rfl

@[simp] lemma cells_modify (m : CellMap κ ν cap) (p : ℕ) (f : ν → ν) :
    (m.modify p f).cells = m.cells.modify p f := rfl

lemma get?_modify (m : CellMap κ ν cap) (p : ℕ) (f : ν → ν) (k : κ) :
    (m.modify p f).get? k = if m.lookup k = some p then (m.get? k).map f else m.get? k := by
  cases hl : m.lookup k with
  | none => simp [get?, hl]
  | some q =>
    by_cases hq : q = p
    · subst q
      simp [get?, hl]
    · simp [get?, hl, hq, List.getElem?_modify_ne f m.cells (Ne.symm hq)]

lemma get?_modify_of_lookup {m : CellMap κ ν cap} {k : κ} {p : ℕ} (h : m.lookup k = some p) (f : ν → ν)
    (j : κ) : (m.modify p f).get? j = if j = k then (m.get? j).map f else m.get? j := by
  rw [get?_modify]
  by_cases hj : j = k
  · simp [hj, h]
  · have hn : m.lookup j ≠ some p := fun hp => hj (m.separate j k p hp h)
    simp [hj, hn]

@[simp] lemma full_modify (m : CellMap κ ν cap) (p : ℕ) (f : ν → ν) : (m.modify p f).Full ↔ m.Full := Iff.rfl

lemma full_update {m : CellMap κ ν cap} (h : m.Full) (k : κ) (v : ν) : (m.update k v).Full := by
  by_cases hr : m.Refuses k
  · rwa [update_of_refuses hr]
  · obtain ⟨index, hu, hi, _⟩ := update_of_not_refuses hr v
    have hk : (m.index.get? k).isSome := by
      by_contra hn
      exact hr ⟨by simpa [lookup] using hn, h⟩
    rw [Full, hi, BoundedMap.Full, BoundedMap.size_update hu, if_pos hk]
    exact h

def ensure (m : CellMap κ ν cap) (k : κ) (v : ν) : CellMap κ ν cap :=
  if (m.lookup k).isSome then m else m.update k v

def adjust (m : CellMap κ ν cap) (k : κ) (f : ν → ν) : CellMap κ ν cap :=
  match m.lookup k with
  | none => m
  | some p => m.modify p f

def put (m : CellMap κ ν cap) (k : κ) (v : ν) : CellMap κ ν cap :=
  match m.lookup k with
  | none => m.update k v
  | some p => m.modify p (fun _ => v)

lemma get?_ensure (m : CellMap κ ν cap) (k : κ) (v : ν) (j : κ) :
    (m.ensure k v).get? j =
      if j = k ∧ m.get? k = none ∧ ¬ m.Full then some v else m.get? j := by
  unfold ensure
  cases hl : m.lookup k with
  | some p =>
    have hg : m.get? k ≠ none := by simp [get?_eq_none, hl]
    simp [hg]
  | none =>
    have hg : m.get? k = none := (m.get?_eq_none k).mpr hl
    by_cases hf : m.Full
    · simp [update_of_refuses ⟨hl, hf⟩, hf]
    · simp [get?_update (fun h => hf h.2), hg, hf]

lemma full_ensure {m : CellMap κ ν cap} (h : m.Full) (k : κ) (v : ν) : (m.ensure k v).Full := by
  unfold ensure
  split
  · exact h
  · exact full_update h k v

lemma get?_adjust (m : CellMap κ ν cap) (k : κ) (f : ν → ν) (j : κ) :
    (m.adjust k f).get? j = if j = k then (m.get? j).map f else m.get? j := by
  unfold adjust
  split
  · rename_i hl
    by_cases hj : j = k
    · simp [hj, (m.get?_eq_none k).mpr hl]
    · simp [hj]
  · rename_i p hl
    exact get?_modify_of_lookup hl f j

lemma full_adjust (m : CellMap κ ν cap) (k : κ) (f : ν → ν) : (m.adjust k f).Full ↔ m.Full := by
  unfold adjust
  split <;> rfl

lemma get?_put (m : CellMap κ ν cap) (k : κ) (v : ν) (j : κ) :
    (m.put k v).get? j =
      if j = k ∧ ¬ m.Refuses k then some v else m.get? j := by
  unfold put
  split
  · rename_i hl
    by_cases hr : m.Refuses k
    · simp [update_of_refuses hr, hr]
    · simp [get?_update hr, hr]
  · rename_i p hl
    have hr : ¬ m.Refuses k := by simp [Refuses, hl]
    rw [get?_modify_of_lookup hl]
    by_cases hj : j = k
    · obtain ⟨u, hu⟩ : ∃ u, m.get? k = some u :=
        Option.ne_none_iff_exists'.mp (by simp [get?_eq_none, hl])
      simp [hj, hu, hr]
    · simp [hj]

lemma full_put {m : CellMap κ ν cap} (h : m.Full) (k : κ) (v : ν) : (m.put k v).Full := by
  unfold put
  split
  · exact full_update h k v
  · exact h

end CellMap

end PacketFilter.Library
