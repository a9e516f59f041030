import Mathlib.Tactic

/-! Going through keys in a fixed order with a cursor: the key after a given one. -/

namespace PacketFilter.Library.Cursors

variable {κ : Type} [DecidableEq κ]

def after (k : κ) : List κ → List κ
  | [] => []
  | j :: ks => if j = k then ks else after k ks

/-- The first key without a cursor, or when the cursor is no key; else the key after the cursor. -/
def nextKey (order : List κ) : Option κ → Option κ
  | none => order.head?
  | some k => if k ∈ order then (after k order).head? else order.head?

lemma after_append {k : κ} {xs : List κ} (h : k ∉ xs) (ys : List κ) : after k (xs ++ k :: ys) = ys := by
  induction xs with
  | nil => simp [after]
  | cons x xs ih =>
    obtain ⟨hne, hm⟩ := not_or.mp (mt List.mem_cons.mpr h)
    rw [List.cons_append, after, if_neg (Ne.symm hne)]
    exact ih hm

lemma nextKey_append {k : κ} {xs ys : List κ} (h : (xs ++ k :: ys).Nodup) :
    nextKey (xs ++ k :: ys) (some k) = ys.head? := by
  have hk : k ∉ xs := fun hm => (List.nodup_append.mp h).2.2 k hm k List.mem_cons_self rfl
  rw [nextKey, if_pos (by simp), after_append hk]

end PacketFilter.Library.Cursors
