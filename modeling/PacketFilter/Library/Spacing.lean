import Mathlib.Data.List.Chain
import Mathlib.Tactic

/-! Points at least a given distance apart, and how many of them fit in a window. -/

namespace PacketFilter.Library.Spacing

def Apart (d a b : ℕ) : Prop := a + d ≤ b

instance (d : ℕ) : DecidableRel (Apart d) := fun x y => inferInstanceAs (Decidable (x + d ≤ y))

lemma apart_trans (d : ℕ) {a b c : ℕ} (h : Apart d a b) (h' : Apart d b c) : Apart d a c := by
  simp only [Apart] at *
  omega

lemma pairwise_apart {d : ℕ} {l : List ℕ} (h : l.IsChain (Apart d)) : l.Pairwise (Apart d) := by
  have ht : IsTrans ℕ (Apart d) := ⟨fun _ _ _ => apart_trans d⟩
  exact List.isChain_iff_pairwise.mp h

lemma length_le_of_apart {d : ℕ} {l : List ℕ} (hs : l.Pairwise (Apart d)) {t w p : ℕ}
    (hl : ∀ x ∈ l, t ≤ x ∧ x < t + w) (hw : w ≤ p * d) : l.length ≤ p := by
  induction l generalizing t w p with
  | nil => simp
  | cons a l ih =>
    obtain ⟨ha, hs⟩ := List.pairwise_cons.mp hs
    have h0 := hl a List.mem_cons_self
    cases p with
    | zero => omega
    | succ p =>
      have hd : w - d ≤ p * d := by
        rw [Nat.succ_mul] at hw
        omega
      have hr : ∀ x ∈ l, t + d ≤ x ∧ x < t + d + (w - d) := by
        intro x hx
        have h1 := ha x hx
        have h2 := hl x (List.mem_cons_of_mem a hx)
        simp only [Apart] at h1
        omega
      have hlen := ih hs hr hd
      simp only [List.length_cons]
      omega

def ladder (d : ℕ) : ℕ → ℕ → List ℕ
  | _, 0 => []
  | t, n + 1 => t :: ladder d (t + d) n

@[simp] lemma length_ladder (d t n : ℕ) : (ladder d t n).length = n := by
  induction n generalizing t with
  | zero => rfl
  | succ n ih => simp [ladder, ih]

lemma mem_ladder {d t n x : ℕ} (h : x ∈ ladder d t n) : t ≤ x ∧ x + d ≤ t + n * d := by
  induction n generalizing t with
  | zero => simp [ladder] at h
  | succ n ih =>
    rw [ladder, List.mem_cons] at h
    rw [Nat.succ_mul]
    rcases h with rfl | h
    · constructor
      · exact le_rfl
      · omega
    · have hh := ih h
      omega

lemma ladder_sorted (d t n : ℕ) : (ladder d t n).Pairwise (· ≤ ·) := by
  induction n generalizing t with
  | zero => exact List.Pairwise.nil
  | succ n ih =>
    refine List.pairwise_cons.mpr ⟨?_, ih (t + d)⟩
    intro x hx
    have hm := mem_ladder hx
    omega

def greedy (d : ℕ) : Option ℕ → List ℕ → List ℕ
  | _, [] => []
  | none, t :: ts => t :: greedy d (some t) ts
  | some u, t :: ts => if t < u + d then greedy d (some u) ts else t :: greedy d (some t) ts

lemma greedy_sublist (d : ℕ) (last : Option ℕ) (ts : List ℕ) : (greedy d last ts).Sublist ts := by
  induction ts generalizing last with
  | nil => simp [greedy]
  | cons t ts ih =>
    cases last with
    | none => exact (ih (some t)).cons_cons t
    | some u =>
      rw [greedy]
      split_ifs
      · exact (ih (some u)).cons t
      · exact (ih (some t)).cons_cons t

lemma greedy_isChain (d u : ℕ) (ts : List ℕ) : (u :: greedy d (some u) ts).IsChain (Apart d) := by
  induction ts generalizing u with
  | nil => simp [greedy]
  | cons t ts ih =>
    rw [greedy]
    split_ifs with h
    · exact ih u
    · exact List.isChain_cons_cons.mpr ⟨Nat.le_of_not_lt h, ih t⟩

lemma greedy_pairwise (d : ℕ) (ts : List ℕ) : (greedy d none ts).Pairwise (Apart d) := by
  cases ts with
  | nil => exact List.Pairwise.nil
  | cons t ts => exact pairwise_apart (greedy_isChain d t ts)

lemma le_and_sublist_of_cons {t y : ℕ} {ts ys : List ℕ} (ht : ∀ x ∈ ts, t ≤ x)
    (h : (y :: ys).Sublist (t :: ts)) : t ≤ y ∧ ys.Sublist ts := by
  rcases List.sublist_cons_iff.mp h with h | ⟨ys', he, h⟩
  · exact ⟨ht y (h.subset List.mem_cons_self), (List.sublist_cons_self y ys).trans h⟩
  · cases he
    exact ⟨le_rfl, h⟩

lemma length_le_greedy_from {d u : ℕ} {ts : List ℕ} (hs : ts.Pairwise (· ≤ ·)) {ys : List ℕ} (hsub : ys.Sublist ts)
    (hy : ys.Pairwise (Apart d)) (hu : ∀ y ∈ ys, u + d ≤ y) : ys.length ≤ (greedy d (some u) ts).length := by
  induction ts generalizing u ys with
  | nil =>
    rw [List.sublist_nil.mp hsub]
    simp
  | cons t ts ih =>
    obtain ⟨ht, hs⟩ := List.pairwise_cons.mp hs
    rw [greedy]
    split_ifs with hlt
    · apply ih hs _ hy hu
      rcases List.sublist_cons_iff.mp hsub with hsub | ⟨ys', rfl, _⟩
      · exact hsub
      · have hut := hu t List.mem_cons_self
        omega
    · cases ys with
      | nil => simp
      | cons y ys =>
        obtain ⟨hd, hy⟩ := List.pairwise_cons.mp hy
        obtain ⟨hty, hsub'⟩ := le_and_sublist_of_cons ht hsub
        have hlen := ih hs hsub' hy (fun z hz => (Nat.add_le_add_right hty d).trans (hd z hz))
        simpa using hlen

lemma length_le_greedy {d : ℕ} {ts : List ℕ} (hs : ts.Pairwise (· ≤ ·)) {ys : List ℕ} (hsub : ys.Sublist ts)
    (hy : ys.Pairwise (Apart d)) : ys.length ≤ (greedy d none ts).length := by
  cases ts with
  | nil =>
    rw [List.sublist_nil.mp hsub]
    simp
  | cons t ts =>
    cases ys with
    | nil => simp
    | cons y ys =>
      obtain ⟨hd, hy⟩ := List.pairwise_cons.mp hy
      obtain ⟨ht, hs⟩ := List.pairwise_cons.mp hs
      obtain ⟨hty, hsub'⟩ := le_and_sublist_of_cons ht hsub
      have hlen := length_le_greedy_from hs hsub' hy (fun z hz => (Nat.add_le_add_right hty d).trans (hd z hz))
      simpa [greedy] using hlen

end PacketFilter.Library.Spacing
