import Mathlib.Tactic

/-! Handles that are obtained and released, with a serial number for each time one is obtained. -/

namespace PacketFilter.Library

structure Ledger (κ : Type) where
  table : List (κ × ℕ)
  obtained : ℕ
  released : List (Option ℕ)
  deriving DecidableEq

namespace Ledger

variable {κ : Type}

def empty : Ledger κ := ⟨[], 0, []⟩

def acquire (l : Ledger κ) (k : κ) : Ledger κ :=
  { l with table := (k, l.obtained) :: l.table, obtained := l.obtained + 1 }

def accounted (l : Ledger κ) (n : ℕ) : ℕ := l.released.count (some n) + (l.table.map Prod.snd).count n

structure Balanced (l : Ledger κ) : Prop where
  once : ∀ n < l.obtained, l.accounted n = 1
  never : ∀ n, l.obtained ≤ n → l.accounted n = 0

lemma balanced_empty : (empty : Ledger κ).Balanced := ⟨fun _ hn => absurd hn (Nat.not_lt_zero _), fun _ _ => rfl⟩

lemma accounted_acquire (l : Ledger κ) (k : κ) (n : ℕ) :
    (l.acquire k).accounted n = l.accounted n + if l.obtained = n then 1 else 0 := by
  simp only [accounted, acquire, List.map_cons, List.count_cons, beq_iff_eq, Nat.add_assoc]

lemma Balanced.acquire {l : Ledger κ} (h : l.Balanced) (k : κ) : (l.acquire k).Balanced := by
  constructor
  · intro n hn
    rw [accounted_acquire]
    rcases Nat.lt_succ_iff_lt_or_eq.mp hn with hlt | rfl
    · rw [h.once n hlt, if_neg hlt.ne']
    · rw [h.never _ le_rfl, if_pos rfl]
  · intro n hn
    have hlt : l.obtained < n := hn
    rw [accounted_acquire, h.never n hlt.le, if_neg hlt.ne]

lemma Balanced.released_once_iff {l : Ledger κ} (h : l.Balanced) :
    (∀ n < l.obtained, l.released.count (some n) = 1) ↔ l.table = [] := by
  constructor
  · intro honce
    rw [List.eq_nil_iff_forall_not_mem]
    intro d hd
    have hpos : 0 < (l.table.map Prod.snd).count d.2 := List.count_pos_iff.mpr (List.mem_map_of_mem hd)
    have hsum : l.accounted d.2 = l.released.count (some d.2) + (l.table.map Prod.snd).count d.2 := rfl
    rcases Nat.lt_or_ge d.2 l.obtained with hlt | hge
    · have hrel := honce d.2 hlt
      have hacc := h.once d.2 hlt
      omega
    · have hacc := h.never d.2 hge
      omega
  · intro htable n hlt
    have hacc := h.once n hlt
    rwa [accounted, htable] at hacc

variable [DecidableEq κ]

def serial? (l : Ledger κ) (k : κ) : Option ℕ := (l.table.find? (fun d => d.1 = k)).map Prod.snd

def release (l : Ledger κ) (k : κ) : Ledger κ :=
  { l with table := l.table.eraseP (fun d => d.1 = k), released := l.released ++ [l.serial? k] }

lemma serial?_acquire (l : Ledger κ) (k : κ) : (l.acquire k).serial? k = some l.obtained := by
  simp [serial?, acquire]

lemma table_release_acquire (l : Ledger κ) (k : κ) : ((l.acquire k).release k).table = l.table := by
  simp [release, acquire]

lemma accounted_release (l : Ledger κ) (k : κ) (n : ℕ) : (l.release k).accounted n = l.accounted n := by
  simp only [accounted, release, List.count_append]
  cases hf : l.table.find? (fun d => d.1 = k) with
  | none =>
    have hall : ∀ d ∈ l.table, ¬ (decide (d.1 = k) = true) := List.find?_eq_none.mp hf
    rw [List.eraseP_of_forall_not hall, serial?, hf]
    simp
  | some d =>
    obtain ⟨hd, xs, ys, htable, hxs⟩ := List.find?_eq_some_iff_append.mp hf
    have hnot : ∀ e ∈ xs, ¬ (decide (e.1 = k) = true) := by simpa using hxs
    rw [serial?, hf, htable, List.eraseP_append_right _ hnot, List.eraseP_cons, hd]
    simp only [List.map_append, List.map_cons, List.count_append, List.count_cons, beq_iff_eq, Option.map_some,
      List.count_nil, Option.some.injEq, cond_true]
    omega

lemma Balanced.release {l : Ledger κ} (h : l.Balanced) (k : κ) : (l.release k).Balanced := by
  constructor
  · intro n hn
    rw [accounted_release, h.once n hn]
  · intro n hn
    rw [accounted_release, h.never n hn]

lemma mem_release {l : Ledger κ} {k : κ} {d : κ × ℕ} (hd : d ∈ l.table) (hne : d.1 ≠ k) :
    d ∈ (l.release k).table :=
  (List.mem_eraseP_of_neg (by simpa using hne)).mpr hd

end Ledger

end PacketFilter.Library
