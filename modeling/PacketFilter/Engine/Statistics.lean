import PacketFilter.Kernel.Maps
import PacketFilter.Library.Cursors

/-! The statistics that packetfilter.cpp gathers when it exits: the loop of `print_statistics`. -/

namespace PacketFilter.Engine

open Library Library.Cursors Kernel

variable {N : ℕ}

/-- A fixed order in which `bpf_map_get_next_key` goes through the keys of the map. -/
structure Enumeration (m : CellMap Addr PacketStats N) where
  order : List Addr
  nodup : order.Nodup
  mem_iff : ∀ a, a ∈ order ↔ m.get? a ≠ none

structure IpEntry where
  ip : Addr
  stats : PacketStats
  deriving DecidableEq

def Counted (stats : PacketStats) : Prop := 0 < stats.dropped.toNat ∨ 0 < stats.passed.toNat

instance (stats : PacketStats) : Decidable (Counted stats) := inferInstanceAs (Decidable (_ ∨ _))

def entryOf (m : CellMap Addr PacketStats N) (ipKey : Addr) : Option IpEntry :=
  (m.get? ipKey).bind (fun stats => if Counted stats then some ⟨ipKey, stats⟩ else none)

/-- The loop of `print_statistics`, cut off after `fuel` rounds. -/
def collect (m : CellMap Addr PacketStats N) (order : List Addr) : (fuel : ℕ) → Addr → List IpEntry →
    Option (List IpEntry)
  | 0, _, _ => none
  | fuel + 1, ipKey, entries =>
    match nextKey order (if entries = [] then none else some ipKey) with
    | none => some entries
    | some next => collect m order fuel next (entries ++ (entryOf m next).toList)

/-- The loop ends, with one entry for each address that has something counted. -/
def Collects (m : CellMap Addr PacketStats N) (order : List Addr) : Prop :=
  ∃ fuel entries, collect m order fuel 0 [] = some entries ∧ (entries.map IpEntry.ip).Nodup ∧
    ∀ a stats, ⟨a, stats⟩ ∈ entries ↔ m.get? a = some stats ∧ Counted stats

section Loop

variable {m : CellMap Addr PacketStats N}

lemma entryOf_eq_some {a b : Addr} {stats : PacketStats} :
    entryOf m a = some ⟨b, stats⟩ ↔ a = b ∧ m.get? a = some stats ∧ Counted stats := by
  simp only [entryOf, Option.bind_eq_some_iff, Option.ite_none_right_eq_some, Option.some.injEq, IpEntry.mk.injEq]
  constructor
  · rintro ⟨stats', hs, hc, rfl, rfl⟩
    exact ⟨rfl, hs, hc⟩
  · rintro ⟨rfl, hs, hc⟩
    exact ⟨stats, hs, hc, rfl, rfl⟩

lemma collect_rest {xs ys : List Addr} {k : Addr} (h : (xs ++ k :: ys).Nodup) {entries : List IpEntry}
    (hne : entries ≠ []) :
    collect m (xs ++ k :: ys) (ys.length + 1) k entries = some (entries ++ ys.filterMap (entryOf m)) := by
  induction ys generalizing xs k entries with
  | nil =>
    rw [collect, if_neg hne, nextKey_append h]
    simp
  | cons y ys ih =>
    have hsplit : xs ++ k :: y :: ys = (xs ++ [k]) ++ y :: ys := by simp
    rw [List.length_cons, collect, if_neg hne, nextKey_append h]
    simp only [List.head?_cons]
    rw [hsplit, ih (hsplit ▸ h) (by simp [hne]), List.filterMap_cons]
    cases entryOf m y <;> simp

lemma collect_first {k : Addr} {ys : List Addr} (h : (k :: ys).Nodup) {entry : IpEntry}
    (hk : entryOf m k = some entry) :
    collect m (k :: ys) (ys.length + 2) 0 [] = some ((k :: ys).filterMap (entryOf m)) := by
  have hrest : collect m ([] ++ k :: ys) (ys.length + 1) k [entry] = some ([entry] ++ ys.filterMap (entryOf m)) :=
    collect_rest h (List.cons_ne_nil entry [])
  rw [List.nil_append] at hrest
  rw [collect, if_pos rfl]
  simp only [nextKey, List.head?_cons, hk, Option.toList_some, List.nil_append]
  rw [hrest, List.filterMap_cons_some hk]
  rfl

lemma collect_stuck {k : Addr} (ys : List Addr) (hk : entryOf m k = none) (fuel : ℕ) (ipKey : Addr) :
    collect m (k :: ys) fuel ipKey [] = none := by
  induction fuel generalizing ipKey with
  | zero => rfl
  | succ fuel ih =>
    rw [collect, if_pos rfl]
    simp only [nextKey, List.head?_cons, hk, Option.toList_none, List.append_nil]
    exact ih k

lemma Enumeration.complete (e : Enumeration m) (a : Addr) (stats : PacketStats) :
    ⟨a, stats⟩ ∈ e.order.filterMap (entryOf m) ↔ m.get? a = some stats ∧ Counted stats := by
  simp only [List.mem_filterMap, entryOf_eq_some]
  constructor
  · rintro ⟨b, _, rfl, hs⟩
    exact hs
  · rintro ⟨hs, hc⟩
    exact ⟨a, (e.mem_iff a).mpr (by simp [hs]), rfl, hs, hc⟩

lemma ips_nodup {order : List Addr} (h : order.Nodup) : ((order.filterMap (entryOf m)).map IpEntry.ip).Nodup := by
  have hip : (order.filterMap (entryOf m)).map IpEntry.ip = order.filter (fun a => (entryOf m a).isSome) := by
    induction order with
    | nil => rfl
    | cons a order ih =>
      have ih := ih (List.nodup_cons.mp h).2
      cases ha : entryOf m a with
      | none => simp [ha, ih]
      | some entry =>
        obtain rfl : a = entry.ip := (entryOf_eq_some.mp ha).1
        simp [ha, ih]
  rw [hip]
  exact h.filter _

end Loop

theorem statistics_collected_iff (m : CellMap Addr PacketStats N) (e : Enumeration m) :
    Collects m e.order ↔ ∀ a ∈ e.order.head?, ∃ stats ∈ m.get? a, Counted stats := by
  cases horder : e.order with
  | nil =>
    simp only [List.head?_nil, Option.not_mem_none, false_implies, implies_true, iff_true]
    refine ⟨1, [], rfl, List.nodup_nil, ?_⟩
    intro a stats
    rw [← e.complete, horder]
    rfl
  | cons k ys =>
    have hnodup : (k :: ys).Nodup := horder ▸ e.nodup
    simp only [List.head?_cons, Option.mem_def, Option.some.injEq, forall_eq']
    cases hk : entryOf m k with
    | none =>
      have hzero : ¬ ∃ stats, m.get? k = some stats ∧ Counted stats := by
        rintro ⟨stats, hs, hc⟩
        rw [entryOf_eq_some.mpr ⟨rfl, hs, hc⟩] at hk
        cases hk
      refine iff_of_false ?_ hzero
      rintro ⟨fuel, entries, hcollect, _⟩
      rw [collect_stuck ys hk] at hcollect
      cases hcollect
    | some entry =>
      obtain ⟨_, hs, hc⟩ := entryOf_eq_some.mp hk
      refine iff_of_true ⟨ys.length + 2, _, collect_first hnodup hk, ips_nodup hnodup, ?_⟩ ⟨_, hs, hc⟩
      rw [← horder]
      exact e.complete

def fresh : CellMap Addr PacketStats 4 := (CellMap.empty.update 0x0A000001#32 ⟨0, 0⟩).update 0x0A000002#32 ⟨1, 0⟩

def freshOrder : Enumeration fresh where
  order := [0x0A000001#32, 0x0A000002#32]
  nodup := by decide
  mem_iff a := by
    rw [← CellMap.mem_keys]
    have hkeys : fresh.keys = {0x0A000002#32, 0x0A000001#32} := by decide +kernel
    rw [hkeys]
    simp [or_comm]

theorem statistics_stuck :
    fresh.get? 0x0A000002#32 = some ⟨1, 0⟩ ∧ (∀ fuel, collect fresh freshOrder.order fuel 0 [] = none) ∧
    ¬ Collects fresh freshOrder.order := by
  have hstuck : ∀ fuel, collect fresh freshOrder.order fuel 0 [] = none :=
    fun fuel => collect_stuck _ (by decide +kernel) fuel 0
  refine ⟨by decide +kernel, hstuck, ?_⟩
  rintro ⟨fuel, entries, hcollect, _⟩
  rw [hstuck fuel] at hcollect
  cases hcollect

end PacketFilter.Engine
