import Mathlib.Tactic

/-! The latest entry of a history that says something about a given matter. -/

namespace PacketFilter.Library.History

variable {α β : Type}

def latest? (p : α → Option β) (h : List α) : Option β := h.reverse.findSome? p

@[simp] lemma latest?_nil (p : α → Option β) : latest? p [] = none := rfl

@[simp] lemma latest?_concat (p : α → Option β) (h : List α) (a : α) :
    latest? p (h ++ [a]) = (p a).or (latest? p h) := by
  cases ha : p a <;> simp [latest?, ha]

lemma latest?_filterMap {γ : Type} (f : γ → Option α) (p : α → Option β) (h : List γ) :
    latest? p (h.filterMap f) = latest? (fun c => (f c).bind p) h := by
  induction h using List.reverseRecOn with
  | nil => rfl
  | append_singleton h c ih =>
    rw [List.filterMap_append, latest?_concat, ← ih]
    cases hc : f c <;> simp [hc]

lemma latest?_eq_none {p : α → Option β} {h : List α} (hp : ∀ a ∈ h, p a = none) : latest? p h = none :=
  List.findSome?_eq_none_iff.mpr (fun a ha => hp a (List.mem_reverse.mp ha))

lemma latest?_of_split {p : α → Option β} {a : α} {b : β} {pre post : List α} (ha : p a = some b)
    (hp : ∀ c ∈ post, p c = none) : latest? p (pre ++ a :: post) = some b := by
  have hpost : post.reverse.findSome? p = none := latest?_eq_none hp
  simp [latest?, List.findSome?_append, hpost, ha]

end PacketFilter.Library.History
