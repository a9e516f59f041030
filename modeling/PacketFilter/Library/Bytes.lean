import Mathlib.Tactic

/-! Memory as bytes: what it holds at a place, and 32-bit words in little-endian order. -/

namespace PacketFilter.Library.Bytes

abbrev Memory := ℕ → BitVec 8

def Holds (b : Memory) (p : ℕ) (bs : List (BitVec 8)) : Prop := ∀ i (h : i < bs.length), b (p + i) = bs[i]

lemma Holds.left {b : Memory} {p : ℕ} {xs ys : List (BitVec 8)} (h : Holds b p (xs ++ ys)) : Holds b p xs := by
  intro i hi
  have hlt : i < (xs ++ ys).length := by
    rw [List.length_append]
    omega
  rw [h i hlt, List.getElem_append_left hi]

lemma Holds.right {b : Memory} {p : ℕ} {xs ys : List (BitVec 8)} (h : Holds b p (xs ++ ys)) :
    Holds b (p + xs.length) ys := by
  intro i hi
  have hlt : xs.length + i < (xs ++ ys).length := by
    rw [List.length_append]
    omega
  rw [Nat.add_assoc, h (xs.length + i) hlt]
  simp

lemma Holds.append {b : Memory} {p : ℕ} {xs ys : List (BitVec 8)} (hx : Holds b p xs)
    (hy : Holds b (p + xs.length) ys) : Holds b p (xs ++ ys) := by
  intro i hi
  rcases Nat.lt_or_ge i xs.length with hlt | hge
  · rw [List.getElem_append_left hlt, hx i hlt]
  · rw [List.length_append] at hi
    rw [List.getElem_append_right hge, ← hy (i - xs.length) (by omega)]
    congr 1
    omega

def bytesAt (b : Memory) (p n : ℕ) : List (BitVec 8) := (List.range n).map (fun i => b (p + i))

@[simp] lemma length_bytesAt (b : Memory) (p n : ℕ) : (bytesAt b p n).length = n := by simp [bytesAt]

lemma holds_bytesAt (b : Memory) (p n : ℕ) : Holds b p (bytesAt b p n) := by
  intro i hi
  simp [bytesAt]

lemma Holds.bytesAt_eq {b : Memory} {p : ℕ} {bs : List (BitVec 8)} (h : Holds b p bs) :
    bytesAt b p bs.length = bs := by
  apply List.ext_getElem (by simp)
  intro i hi hi'
  simp [bytesAt, h i hi']

lemma joined_eq (w : BitVec 32) :
    w.extractLsb' 24 8 ++ w.extractLsb' 16 8 ++ w.extractLsb' 8 8 ++ w.extractLsb' 0 8 = w := by
  apply BitVec.eq_of_getLsbD_eq
  intro i hi
  simp only [BitVec.getLsbD_append, BitVec.getLsbD_extractLsb']
  by_cases h1 : i < 8
  · simp [h1]
  by_cases h2 : i - 8 < 8
  · simp [h1, h2, show 8 + (i - 8) = i by omega]
  by_cases h3 : i - 8 - 8 < 8
  · simp [h1, h2, h3, show 16 + (i - 8 - 8) = i by omega]
  · simp [h1, h2, h3, show i - 8 - 8 - 8 < 8 by omega, show 24 + (i - 8 - 8 - 8) = i by omega]

def wordBytes (w : BitVec 32) : List (BitVec 8) :=
  [w.extractLsb' 0 8, w.extractLsb' 8 8, w.extractLsb' 16 8, w.extractLsb' 24 8]

@[simp] lemma length_wordBytes (w : BitVec 32) : (wordBytes w).length = 4 := rfl

def word (b : Memory) (p : ℕ) : BitVec 32 := b (p + 3) ++ b (p + 2) ++ b (p + 1) ++ b p

lemma Holds.word_eq {b : Memory} {p : ℕ} {w : BitVec 32} (h : Holds b p (wordBytes w)) : word b p = w := by
  have h0 : b p = w.extractLsb' 0 8 := h 0 (by simp)
  have h1 : b (p + 1) = w.extractLsb' 8 8 := h 1 (by simp)
  have h2 : b (p + 2) = w.extractLsb' 16 8 := h 2 (by simp)
  have h3 : b (p + 3) = w.extractLsb' 24 8 := h 3 (by simp)
  rw [word, h0, h1, h2, h3]
  exact joined_eq w

end PacketFilter.Library.Bytes
