import Mathlib.Tactic

/-! Streams of inputs merged in any order, against a state that each stream sees only a part of. -/

namespace PacketFilter.Library.Streams

variable {ι α S O : Type}

section Merging

variable [DecidableEq ι]

/-- The merged list takes its elements from the heads of the streams until all of them are used up. -/
inductive Interleaving : (ι → List α) → List α → Prop where
  | nil {streams : ι → List α} : (∀ i, streams i = []) → Interleaving streams []
  | cons {streams : ι → List α} {i : ι} {a : α} {rest l : List α} :
      streams i = a :: rest → Interleaving (Function.update streams i rest) l → Interleaving streams (a :: l)

lemma Interleaving.filter_eq {owns : ι → α → Prop} [∀ i a, Decidable (owns i a)] {streams : ι → List α}
    {l : List α} (h : Interleaving streams l) (hone : ∀ i j a, owns i a → owns j a → i = j)
    (hown : ∀ i, ∀ a ∈ streams i, owns i a) (i : ι) :
    l.filter (owns i ·) = streams i := by
  induction h with
  | nil hn => rw [hn i, List.filter_nil]
  | @cons streams j a rest l hj _ ih =>
    have ha : owns j a := hown j a (hj ▸ List.mem_cons_self)
    have hrest : ∀ k, ∀ b ∈ Function.update streams j rest k, owns k b := by
      intro k b hb
      by_cases hk : k = j
      · subst k
        rw [Function.update_self] at hb
        exact hown j b (hj ▸ List.mem_cons_of_mem a hb)
      · rw [Function.update_of_ne hk] at hb
        exact hown k b hb
    have hh := ih hrest
    by_cases hi : i = j
    · subst i
      rw [List.filter_cons_of_pos (by simpa using ha), hh, Function.update_self, hj]
    · have hn : ¬ owns i a := fun hia => hi (hone i j a hia ha)
      rw [List.filter_cons_of_neg (by simpa using hn), hh, Function.update_of_ne hi]

end Merging

section Play

variable (step : S → α → S × O)

def play (s : S) (l : List α) : S := l.foldl (fun s a => (step s a).1) s

def outcomes : S → List α → List (α × O)
  | _, [] => []
  | s, a :: l => (a, (step s a).2) :: outcomes (step s a).1 l

/-- Inputs of a stream see only what `agree` compares for it, and those of other streams leave that alone. -/
structure Separates (owns : ι → α → Prop) (agree : ι → S → S → Prop) : Prop where
  own : ∀ {i a s s'}, owns i a → agree i s s' → (step s a).2 = (step s' a).2 ∧ agree i (step s a).1 (step s' a).1
  other : ∀ {i a s s'}, ¬ owns i a → agree i s s' → agree i (step s a).1 s'

variable {step} {owns : ι → α → Prop} [∀ i a, Decidable (owns i a)] {agree : ι → S → S → Prop}

lemma Separates.project (h : Separates step owns agree) {i : ι} (l : List α) {s s' : S} (hs : agree i s s') :
    agree i (play step s l) (play step s' (l.filter (owns i ·))) ∧
      (outcomes step s l).filter (fun x => owns i x.1) = outcomes step s' (l.filter (owns i ·)) := by
  induction l generalizing s s' with
  | nil => exact ⟨hs, rfl⟩
  | cons a l ih =>
    by_cases ha : owns i a
    · obtain ⟨ho, hs⟩ := h.own ha hs
      obtain ⟨h1, h2⟩ := ih hs
      rw [List.filter_cons_of_pos (by simpa using ha)]
      refine ⟨h1, ?_⟩
      rw [outcomes, List.filter_cons_of_pos (by simpa using ha), h2, outcomes, ho]
    · obtain ⟨h1, h2⟩ := ih (h.other ha hs)
      rw [List.filter_cons_of_neg (by simpa using ha)]
      refine ⟨h1, ?_⟩
      rw [outcomes, List.filter_cons_of_neg (by simpa using ha), h2]

lemma Separates.commute (h : Separates step owns agree) {i : ι}
    (htrans : ∀ s t u, agree i s u → agree i t u → agree i s t)
    {l l' : List α} (hl : l.filter (owns i ·) = l'.filter (owns i ·)) {s : S} (hs : agree i s s) :
    agree i (play step s l) (play step s l') ∧
      (outcomes step s l).filter (fun x => owns i x.1) = (outcomes step s l').filter (fun x => owns i x.1) := by
  obtain ⟨h1, h2⟩ := h.project l hs
  obtain ⟨h1', h2'⟩ := h.project l' hs
  rw [← hl] at h1' h2'
  exact ⟨htrans _ _ _ h1 h1', h2.trans h2'.symm⟩

end Play

end PacketFilter.Library.Streams
