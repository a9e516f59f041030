import PacketFilter.Library.BoundedMap
import Mathlib.Data.BitVec

/-! Address prefixes, and tables of them searched for the longest match. -/

namespace PacketFilter.Library

variable {w : ℕ}

def mask (n : ℕ) (a : BitVec w) : BitVec w := (a >>> (w - n)) <<< (w - n)

lemma getLsbD_mask (n : ℕ) (a : BitVec w) (i : ℕ) :
    (mask n a).getLsbD i = (decide (w - n ≤ i) && a.getLsbD i) := by
  by_cases hi : i < w
  · by_cases hn : w - n ≤ i
    · simp [mask, hi, hn, Nat.not_lt.mpr hn, Nat.add_sub_cancel' hn]
    · simp [mask, hn, Nat.lt_of_not_le hn]
  · simp [BitVec.getLsbD_of_ge _ _ (Nat.le_of_not_lt hi)]

@[simp] lemma mask_mask (n : ℕ) (a : BitVec w) : mask n (mask n a) = mask n a := by
  apply BitVec.eq_of_getLsbD_eq
  intro i _
  simp [getLsbD_mask]

/-- A prefix of `len` bits; the bits of `addr` after them are zero. -/
structure Network (w : ℕ) where
  len : ℕ
  addr : BitVec w
  le : len ≤ w
  masked : mask len addr = addr
  deriving DecidableEq

namespace Network

def of (n : ℕ) (hn : n ≤ w) (a : BitVec w) : Network w := ⟨n, mask n a, hn, mask_mask n a⟩

def Contains (net : Network w) (a : BitVec w) : Prop := mask net.len a = net.addr

instance (net : Network w) (a : BitVec w) : Decidable (net.Contains a) := inferInstanceAs (Decidable (_ = _))

lemma contains_of (n : ℕ) (hn : n ≤ w) (a : BitVec w) : (of n hn a).Contains a := rfl

lemma Contains.eq_of {net : Network w} {a : BitVec w} (h : net.Contains a) : net = of net.len net.le a := by
  cases net with
  | mk len addr le masked =>
    simp only [Contains] at h
    simp [of, h]

end Network

abbrev PrefixTable (w : ℕ) (ν : Type) (cap : ℕ) := BoundedMap (Network w) ν cap

namespace PrefixTable

variable {ν : Type} {cap : ℕ}

def longestUpTo (t : PrefixTable w ν cap) (a : BitVec w) : (n : ℕ) → n ≤ w → Option ν
  | 0, h => t.get? (.of 0 h a)
  | n + 1, h => (t.get? (.of (n + 1) h a)).or (longestUpTo t a n (Nat.le_of_succ_le h))

def longest (t : PrefixTable w ν cap) (a : BitVec w) : Option ν := longestUpTo t a w le_rfl

lemma longestUpTo_isSome (t : PrefixTable w ν cap) (a : BitVec w) (n : ℕ) (hn : n ≤ w) :
    (longestUpTo t a n hn).isSome ↔ ∃ i, ∃ hi : i ≤ w, i ≤ n ∧ (t.get? (.of i hi a)).isSome := by
  induction n with
  | zero =>
    rw [longestUpTo]
    constructor
    · exact fun h => ⟨0, hn, le_rfl, h⟩
    · rintro ⟨i, hi, h0, h⟩
      obtain rfl : i = 0 := by omega
      exact h
  | succ n ih =>
    rw [longestUpTo, Option.isSome_or, Bool.or_eq_true, ih]
    constructor
    · rintro (h | ⟨i, hi, hin, h⟩)
      · exact ⟨n + 1, hn, le_rfl, h⟩
      · exact ⟨i, hi, by omega, h⟩
    · rintro ⟨i, hi, hin, h⟩
      by_cases he : i = n + 1
      · subst i
        exact Or.inl h
      · exact Or.inr ⟨i, hi, by omega, h⟩

lemma longest_isSome (t : PrefixTable w ν cap) (a : BitVec w) :
    (longest t a).isSome ↔ ∃ net, (t.get? net).isSome ∧ net.Contains a := by
  rw [longest, longestUpTo_isSome]
  constructor
  · rintro ⟨i, hi, _, h⟩
    exact ⟨.of i hi a, h, Network.contains_of i hi a⟩
  · rintro ⟨net, h, hc⟩
    exact ⟨net.len, net.le, net.le, hc.eq_of ▸ h⟩

end PrefixTable

end PacketFilter.Library
