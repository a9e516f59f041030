import Mathlib.Algebra.BigOperators.Group.Finset.Basic
import Mathlib.Data.Fintype.BigOperators
import Mathlib.Tactic

/-! Counting the members of a finite family that have a property, as single members change. -/

namespace PacketFilter.Library

variable {ι T : Type} [Fintype ι] [DecidableEq ι] (P : T → Prop) [DecidablePred P]

def headcount (f : ι → T) : ℕ := (Finset.univ.filter (fun i => P (f i))).card

lemma headcount_update (f : ι → T) (i : ι) (t : T) :
    headcount P (Function.update f i t) + (if P (f i) then 1 else 0) = headcount P f + (if P t then 1 else 0) := by
  have hsum (g : ι → T) : headcount P g =
      (if P (g i) then 1 else 0) + ∑ j ∈ Finset.univ.erase i, if P (g j) then 1 else 0 := by
    rw [headcount, Finset.card_filter]
    exact (Finset.add_sum_erase _ _ (Finset.mem_univ i)).symm
  have hrest : ∑ j ∈ Finset.univ.erase i, (if P (Function.update f i t j) then 1 else 0) =
      ∑ j ∈ Finset.univ.erase i, if P (f j) then 1 else 0 := by
    apply Finset.sum_congr rfl
    intro j hj
    rw [Function.update_of_ne (Finset.ne_of_mem_erase hj)]
  rw [hsum (Function.update f i t), hsum f, hrest, Function.update_self]
  omega

variable {P}

lemma headcount_balance {R : Type} [AddMonoidWithOne R] [IsRightCancelAdd R] {f : ι → T} {i : ι} {t : T} {c c' : R}
    (h : c = headcount P f) (hb : c' + (if P (f i) then 1 else 0) = c + (if P t then 1 else 0)) :
    c' = headcount P (Function.update f i t) := by
  have hu := congrArg (Nat.cast : ℕ → R) (headcount_update P f i t)
  push_cast at hu
  rw [← h, ← hb] at hu
  exact (add_right_cancel hu).symm

omit [DecidableEq ι] in
lemma headcount_eq_zero {f : ι → T} (h : ∀ i, ¬ P (f i)) : headcount P f = 0 := by
  simp [headcount, h]

omit [DecidableEq ι] in
lemma headcount_congr {Q : T → Prop} [DecidablePred Q] {f : ι → T} (h : ∀ i, P (f i) ↔ Q (f i)) :
    headcount P f = headcount Q f := by
  simp [headcount, h]

lemma countP_eq_sum {α κ : Type} [DecidableEq κ] (key : α → κ) (Q : α → Prop) [DecidablePred Q] {l : List α}
    {S : Finset κ} (h : ∀ x ∈ l, key x ∈ S) :
    l.countP (Q ·) = ∑ k ∈ S, l.countP (fun x => key x = k ∧ Q x) := by
  induction l with
  | nil => simp
  | cons x l ih =>
    obtain ⟨hx, hl⟩ := List.forall_mem_cons.mp h
    simp only [List.countP_cons, Finset.sum_add_distrib, ← ih hl]
    congr 1
    by_cases hq : Q x
    · simp [hq, hx]
    · simp [hq]

end PacketFilter.Library
