import PacketFilter.Engine.Printing
import PacketFilter.Engine.Statistics
import PacketFilter.Kernel.Accounting
import PacketFilter.Library.Tables

/-! What `print_statistics` of packetfilter.cpp makes of the counters: the console's lines and stats.txt. -/

namespace PacketFilter.Engine

open Library Library.Scanning Library.Tables
open Kernel (Addr PacketStats PacketLogs XdpAction Maps Event)

variable {N : ℕ}

structure Report where
  console : Text
  statsFile : Option Text
  deriving DecidableEq

def totalsLine (total dropped passed : ℕ) : Text :=
  "Total packets: ".toList ++ printNat total ++ " (Dropped: ".toList ++ printNat dropped ++ ", Passed: ".toList ++
    printNat passed ++ ")\n".toList

def TITLE : Text := padRight 15 "IP Address".toList ++ cells 10 ["Dropped".toList, "Passed".toList, "Total".toList]

def RULE : Text := "---------------------------------------------------".toList

def statsFields (entry : IpEntry) : List Text :=
  [printNat entry.stats.dropped.toNat, printNat entry.stats.passed.toNat,
    printNat (entry.stats.dropped + entry.stats.passed).toNat]

def statsLine (entry : IpEntry) : Text := padRight 15 (inetNtoa entry.ip) ++ cells 10 (statsFields entry)

def statsText (entries : List IpEntry) : Text := lines (TITLE :: RULE :: entries.map statsLine)

/-- What comes after the counters are read: `dropped` and `passed` are the answers of the two lookups, and `opened`
says whether stats.txt could be opened. -/
def printStatistics (dropped passed : Option (BitVec 64)) (sort : List IpEntry → List IpEntry)
    (entries : List IpEntry) (opened : Bool) : Report :=
  let totals := match dropped, passed with
    | some dropped, some passed => totalsLine (dropped + passed).toNat dropped.toNat passed.toNat
    | _, _ => []
  let console := "\n-------- Packet Filter Statistics --------\n".toList ++ totals
  if entries = [] then ⟨console ++ "\nNo packet statistics recorded.\n".toList, none⟩
  else if opened then
    ⟨console ++ "Per-IP statistics written to stats.txt\n".toList, some (statsText (sort entries))⟩
  else ⟨console, none⟩

/-- What `std::sort` promises with the comparison of `print_statistics`: nothing about equal counts. -/
structure Sorts (sort : List IpEntry → List IpEntry) : Prop where
  perm : ∀ entries, List.Perm (sort entries) entries
  descending : ∀ entries, (sort entries).Pairwise (fun a b => b.stats.dropped.toNat ≤ a.stats.dropped.toNat)

structure StatsRow where
  ip : Addr
  dropped : BitVec 64
  passed : BitVec 64
  total : BitVec 64
  deriving DecidableEq

def IpEntry.row (entry : IpEntry) : StatsRow :=
  ⟨entry.ip, entry.stats.dropped, entry.stats.passed, entry.stats.dropped + entry.stats.passed⟩

/-- A reader for stats.txt: the two lines of the title, and four words on each further line. -/
def readStatsLine (line : Text) : Option StatsRow :=
  match words line with
  | [ip, dropped, passed, total] => do
    let ip ← inetPton ip
    let dropped ← stoul dropped
    let passed ← stoul passed
    let total ← stoul total
    return ⟨ip, dropped, passed, total⟩
  | _ => none

def readStats (text : Text) : Option (List StatsRow) :=
  match getlines text with
  | title :: rule :: rest => if title = TITLE ∧ rule = RULE then rest.mapM readStatsLine else none
  | _ => none

section Reading

lemma isWord_inetNtoa (a : Addr) : IsWord (inetNtoa a) := by
  constructor
  · intro hnil
    have hread := inetPton_inetNtoa a
    rw [hnil] at hread
    simp [inetPton, cString] at hread
  · intro c hc
    by_contra hs
    have hspace : c.isDigit = false ∧ c ≠ '.' := by
      constructor
      · by_contra hd
        rw [isSpace_of_isDigit (by simpa using hd)] at hs
        exact hs rfl
      · rintro rfl
        exact hs (by decide)
    exact ne_of_mem_inetNtoa hc hspace rfl

lemma isWord_statsFields (entry : IpEntry) : ∀ t ∈ statsFields entry, IsWord t := by
  intro t ht
  simp only [statsFields, List.mem_cons, List.not_mem_nil, or_false] at ht
  rcases ht with rfl | rfl | rfl <;> exact isWord_toDigits _

lemma stoul_printNat64 (w : BitVec 64) : stoul (printNat w.toNat) = some w := by
  rw [printNat, stoul_toDigits w.isLt, BitVec.ofNat_toNat, BitVec.setWidth_eq]

lemma readStatsLine_statsLine (entry : IpEntry) : readStatsLine (statsLine entry) = some entry.row := by
  have hwords : words (statsLine entry) = inetNtoa entry.ip :: statsFields entry :=
    words_row 15 10 (isWord_inetNtoa entry.ip) (isWord_statsFields entry)
  rw [readStatsLine, hwords]
  simp only [statsFields, inetPton_inetNtoa, stoul_printNat64, Option.bind_eq_bind, Option.bind_some,
    Option.pure_def]
  rfl

lemma newline_not_mem_cells {width : ℕ} {texts : List Text} (h : ∀ t ∈ texts, '\n' ∉ t) :
    '\n' ∉ cells width texts := by
  simpa [cells, padLeft, List.mem_replicate] using h

lemma newline_not_mem_of_isWord {t : Text} (h : IsWord t) : '\n' ∉ t := fun hm => by
  have hs := h.2 _ hm
  revert hs
  decide

lemma newline_not_mem_statsLine (entry : IpEntry) : '\n' ∉ statsLine entry := by
  have hip := newline_not_mem_of_isWord (isWord_inetNtoa entry.ip)
  have hcells : '\n' ∉ cells 10 (statsFields entry) :=
    newline_not_mem_cells (fun t ht => newline_not_mem_of_isWord (isWord_statsFields entry t ht))
  simp [statsLine, padRight, List.mem_replicate, hip, hcells]

lemma readStats_statsText (entries : List IpEntry) :
    readStats (statsText entries) = some (entries.map IpEntry.row) := by
  have hlines : getlines (statsText entries) = TITLE :: RULE :: entries.map statsLine := by
    apply getlines_lines
    intro t ht
    simp only [List.mem_cons, List.mem_map] at ht
    rcases ht with rfl | rfl | ⟨entry, -, rfl⟩
    · decide
    · decide
    · exact newline_not_mem_statsLine entry
  rw [readStats, hlines]
  simp only [true_and, if_true, mapM_read readStatsLine_statsLine]

end Reading

section Counting

open Kernel

variable {m : Maps N} {log : List PacketLogs}

def Seen (m : Maps N) (log : List PacketLogs) : Prop := ∀ a, m.ipStats.get? a ≠ none → ∃ r ∈ log, r.ip = a

lemma seen_step (h : Seen m log) (e : Event N) : Seen (Kernel.step m e) (log ++ (record? m e).toList) := by
  intro a ha
  have hold (hm : m.ipStats.get? a ≠ none) : ∃ r ∈ log ++ (record? m e).toList, r.ip = a := by
    obtain ⟨r, hr, hip⟩ := h a hm
    exact ⟨r, List.mem_append_left _ hr, hip⟩
  cases e with
  | configure s => exact hold ha
  | consume n => exact hold ha
  | packet f inp =>
    rw [step_packet] at ha
    split_ifs at ha with hc
    · by_cases hf : a = f.saddr
      · refine ⟨_, List.mem_append_right _ (by rw [record?, if_pos hc]; exact List.mem_singleton_self _), hf.symm⟩
      · rw [get?_stats_filtered, if_neg hf] at ha
        exact hold ha
    · exact hold ha

lemma seen_runAll (h : Seen m log) (es : List (Event N)) : Seen (Kernel.runAll m es) (log ++ records m es) := by
  induction es generalizing m log with
  | nil => simpa [records, Kernel.moments] using h
  | cons e es ih =>
    rw [records_cons, ← List.append_assoc]
    exact ih (seen_step h e)

lemma isPassed_records {es : List (Event N)} {r : PacketLogs} (h : r ∈ records m es) :
    r.isPassed = 0 ∨ r.isPassed = 1 := by
  obtain ⟨⟨m', e⟩, -, hr⟩ := List.mem_filterMap.mp h
  cases e with
  | configure s => cases hr
  | consume n => cases hr
  | packet f inp =>
    simp only [record?, Option.ite_none_right_eq_some, Option.some.injEq] at hr
    obtain ⟨-, rfl⟩ := hr
    generalize (Library.Programs.Prog.run (exec inp) (xdpFilter f) m').1 = v
    cases v
    · exact .inl rfl
    · exact .inr rfl

lemma countP_verdicts (log : List PacketLogs) (h : ∀ r ∈ log, r.isPassed = 0 ∨ r.isPassed = 1)
    (p : PacketLogs → Prop) [DecidablePred p] :
    log.countP (fun r => p r ∧ r.isPassed = 0) + log.countP (fun r => p r ∧ r.isPassed = 1) =
      log.countP (p ·) := by
  induction log with
  | nil => rfl
  | cons r log ih =>
    have ih := ih (fun q hq => h q (List.mem_cons_of_mem r hq))
    simp only [List.countP_cons]
    rcases h r List.mem_cons_self with hr | hr <;> by_cases hp : p r <;> simp [hr, hp] at ih ⊢ <;> omega

lemma toNat_ofNat_countP {p : PacketLogs → Bool} (h : log.length < 2 ^ 64) :
    (BitVec.ofNat 64 (log.countP p)).toNat = log.countP p := by
  have hle : log.countP p ≤ log.length := List.countP_le_length
  rw [BitVec.toNat_ofNat, Nat.mod_eq_of_lt (by omega)]

lemma toNat_add_of_countP {d p : BitVec 64} {f g : PacketLogs → Bool} {n : ℕ} (hd : d.toNat = log.countP f)
    (hp : p.toNat = log.countP g) (hsum : log.countP f + log.countP g = n) (hn : n < 2 ^ 64) :
    (d + p).toNat = n := by
  rw [BitVec.toNat_add, hd, hp, hsum, Nat.mod_eq_of_lt hn]

end Counting

section Printing

variable {m : CellMap Addr PacketStats N}

lemma collect_all (e : Enumeration m) (h : ∀ a ∈ e.order, ∃ stats ∈ m.get? a, Counted stats) :
    ∃ fuel, collect m e.order fuel 0 [] = some (e.order.filterMap (entryOf m)) := by
  cases horder : e.order with
  | nil => exact ⟨1, rfl⟩
  | cons k ys =>
    obtain ⟨stats, hs, hc⟩ := h k (by rw [horder]; exact List.mem_cons_self)
    have hnodup : (k :: ys).Nodup := horder ▸ e.nodup
    exact ⟨ys.length + 2, collect_first hnodup (entryOf_eq_some.mpr ⟨rfl, hs, hc⟩)⟩

lemma statsFile_reads (dropped passed : Option (BitVec 64)) {sort : List IpEntry → List IpEntry}
    (hsort : Sorts sort) (entries : List IpEntry) :
    (printStatistics dropped passed sort entries true).statsFile.map readStats =
      if (sort entries).map IpEntry.row = [] then none else some (some ((sort entries).map IpEntry.row)) := by
  have hnil : (sort entries).map IpEntry.row = [] ↔ entries = [] := by
    rw [List.map_eq_nil_iff, ← List.length_eq_zero_iff, (hsort.perm entries).length_eq, List.length_eq_zero_iff]
  simp only [hnil, printStatistics]
  split_ifs
  · rfl
  · simp only [Option.map_some, readStats_statsText]

lemma totals_shown (dropped passed : BitVec 64) (sort : List IpEntry → List IpEntry) (entries : List IpEntry)
    (opened : Bool) :
    totalsLine (dropped + passed).toNat dropped.toNat passed.toNat <:+:
      (printStatistics (some dropped) (some passed) sort entries opened).console := by
  simp only [printStatistics]
  split_ifs
  · exact ⟨_, _, rfl⟩
  · exact ⟨_, _, rfl⟩
  · exact ⟨_, [], List.append_nil _⟩

end Printing

structure RowOf (log : List PacketLogs) (row : StatsRow) : Prop where
  dropped : row.dropped.toNat = log.countP (fun r => r.ip = row.ip ∧ r.isPassed = 0)
  passed : row.passed.toNat = log.countP (fun r => r.ip = row.ip ∧ r.isPassed = 1)
  total : row.total.toNat = log.countP (·.ip = row.ip)

section Runs

open Kernel

variable (es : List (Event N)) (hshort : (records (.zeroed : Maps N) es).length < 2 ^ 64)

include hshort

lemma rowOf_tracked {a : Addr} {stats : PacketStats}
    (h : (Kernel.runAll (.zeroed : Maps N) es).ipStats.get? a = some stats) :
    RowOf (records .zeroed es) (⟨a, stats⟩ : IpEntry).row := by
  have hacc : Accounts (Kernel.runAll (.zeroed : Maps N) es) (records .zeroed es) :=
    accounts_runAll accounts_zeroed es
  have hd : stats.dropped.toNat = (records (.zeroed : Maps N) es).countP (fun r => r.ip = a ∧ r.isPassed = 0) :=
    (congrArg BitVec.toNat (hacc.tracked a stats h .drop)).trans (toNat_ofNat_countP hshort)
  have hp : stats.passed.toNat = (records (.zeroed : Maps N) es).countP (fun r => r.ip = a ∧ r.isPassed = 1) :=
    (congrArg BitVec.toNat (hacc.tracked a stats h .pass)).trans (toNat_ofNat_countP hshort)
  have hle : (records (.zeroed : Maps N) es).countP (·.ip = a) ≤ (records (.zeroed : Maps N) es).length :=
    List.countP_le_length
  have hsum := countP_verdicts (records (.zeroed : Maps N) es) (fun r hr => isPassed_records hr) (·.ip = a)
  exact ⟨hd, hp, toNat_add_of_countP hd hp hsum (hle.trans_lt hshort)⟩

lemma counted_tracked {a : Addr} {stats : PacketStats}
    (h : (Kernel.runAll (.zeroed : Maps N) es).ipStats.get? a = some stats) : Counted stats := by
  have hseen : Seen (Kernel.runAll (.zeroed : Maps N) es) ([] ++ records .zeroed es) :=
    seen_runAll (fun a ha => absurd (by simp [Maps.zeroed]) ha) es
  obtain ⟨r, hr, hip⟩ := hseen a (by simp [h])
  have hrow := rowOf_tracked es hshort h
  have hpos : 0 < (records (.zeroed : Maps N) es).countP (·.ip = a) :=
    List.countP_pos_iff.mpr ⟨r, hr, by simpa using hip⟩
  have hsum := countP_verdicts (records (.zeroed : Maps N) es) (fun r hr => isPassed_records hr) (·.ip = a)
  have hd : stats.dropped.toNat = (records (.zeroed : Maps N) es).countP (fun r => r.ip = a ∧ r.isPassed = 0) :=
    hrow.dropped
  have hp : stats.passed.toNat = (records (.zeroed : Maps N) es).countP (fun r => r.ip = a ∧ r.isPassed = 1) :=
    hrow.passed
  unfold Counted
  omega

lemma totals_run :
    let m := Kernel.runAll (.zeroed : Maps N) es
    let log := records (.zeroed : Maps N) es
    (m.globalStats 0 + m.globalStats 1).toNat = log.length ∧
      (m.globalStats 0).toNat = log.countP (·.isPassed = 0) ∧
      (m.globalStats 1).toNat = log.countP (·.isPassed = 1) := by
  have hacc : Accounts (Kernel.runAll (.zeroed : Maps N) es) (records .zeroed es) :=
    accounts_runAll accounts_zeroed es
  have hd : ((Kernel.runAll (.zeroed : Maps N) es).globalStats 0).toNat =
      (records (.zeroed : Maps N) es).countP (·.isPassed = 0) :=
    (congrArg BitVec.toNat (hacc.global .drop)).trans (toNat_ofNat_countP hshort)
  have hp : ((Kernel.runAll (.zeroed : Maps N) es).globalStats 1).toNat =
      (records (.zeroed : Maps N) es).countP (·.isPassed = 1) :=
    (congrArg BitVec.toNat (hacc.global .pass)).trans (toNat_ofNat_countP hshort)
  have hsum := countP_verdicts (records (.zeroed : Maps N) es) (fun r hr => isPassed_records hr) (fun _ => True)
  simp only [true_and, decide_true, List.countP_true] at hsum
  exact ⟨toNat_add_of_countP hd hp hsum hshort, hd, hp⟩

end Runs

/-- From zeroed maps, and as long as no counter has wrapped around: the loop of `print_statistics` ends, the
console shows how many packets were logged, and stats.txt reads back as one row for each address with counters,
with what the log has of it, by falling numbers of dropped packets. -/
theorem report_of_run (es : List (Event N)) (hshort : (Kernel.records (.zeroed : Maps N) es).length < 2 ^ 64)
    (e : Enumeration (Kernel.runAll (.zeroed : Maps N) es).ipStats) (sort : List IpEntry → List IpEntry)
    (hsort : Sorts sort) :
    let m := Kernel.runAll (.zeroed : Maps N) es
    let log := m.packetRingbuf.submitted
    ∃ fuel entries rows, collect m.ipStats e.order fuel 0 [] = some entries ∧
      let report := printStatistics (some (m.globalStats 0)) (some (m.globalStats 1)) sort entries true
      totalsLine log.length (log.countP (·.isPassed = 0)) (log.countP (·.isPassed = 1)) <:+: report.console ∧
      report.statsFile.map readStats = (if rows = [] then none else some (some rows)) ∧
      (rows.map StatsRow.ip).Nodup ∧ rows.Pairwise (fun a b => b.dropped.toNat ≤ a.dropped.toNat) ∧
      ∀ row, row ∈ rows ↔ m.ipStats.get? row.ip ≠ none ∧ RowOf log row := by
  intro m log
  have hacc : Kernel.Accounts m (Kernel.records .zeroed es) := Kernel.accounts_runAll Kernel.accounts_zeroed es
  have hlog : log = Kernel.records .zeroed es := hacc.submitted
  have hcounted : ∀ a ∈ e.order, ∃ stats ∈ m.ipStats.get? a, Counted stats := by
    intro a ha
    obtain ⟨stats, hs⟩ := Option.ne_none_iff_exists'.mp ((e.mem_iff a).mp ha)
    exact ⟨stats, hs, counted_tracked es hshort hs⟩
  obtain ⟨fuel, hcollect⟩ := collect_all e hcounted
  set entries := e.order.filterMap (entryOf m.ipStats) with hentries
  refine ⟨fuel, entries, (sort entries).map IpEntry.row, hcollect, ?_,
    statsFile_reads _ _ hsort entries, ?_, ?_, ?_⟩
  · obtain ⟨htotal, hd, hp⟩ := totals_run es hshort
    rw [hlog, ← htotal, ← hd, ← hp]
    exact totals_shown _ _ sort entries true
  · have hips : ((sort entries).map IpEntry.row).map StatsRow.ip = (sort entries).map IpEntry.ip := by
      rw [List.map_map]
      rfl
    rw [hips]
    exact ((hsort.perm entries).map IpEntry.ip).nodup_iff.mpr (ips_nodup e.nodup)
  · exact List.pairwise_map.mpr (hsort.descending entries)
  · intro row
    rw [hlog, List.mem_map]
    constructor
    · rintro ⟨entry, hmem, rfl⟩
      obtain ⟨hs, -⟩ := (e.complete entry.ip entry.stats).mp ((hsort.perm entries).mem_iff.mp hmem)
      refine ⟨fun hnone => ?_, rowOf_tracked es hshort hs⟩
      cases hs.symm.trans hnone
    · rintro ⟨hne, hrow⟩
      obtain ⟨stats, hs⟩ := Option.ne_none_iff_exists'.mp hne
      have hmem : (⟨row.ip, stats⟩ : IpEntry) ∈ entries :=
        (e.complete row.ip stats).mpr ⟨hs, counted_tracked es hshort hs⟩
      have hsame := rowOf_tracked es hshort hs
      refine ⟨_, (hsort.perm entries).mem_iff.mpr hmem, ?_⟩
      obtain ⟨ip, dropped, passed, total⟩ := row
      simp only [IpEntry.row, StatsRow.mk.injEq, true_and]
      exact ⟨BitVec.eq_of_toNat_eq (hsame.dropped.trans hrow.dropped.symm),
        BitVec.eq_of_toNat_eq (hsame.passed.trans hrow.passed.symm),
        BitVec.eq_of_toNat_eq (hsame.total.trans hrow.total.symm)⟩

def byDropped (entries : List IpEntry) : List IpEntry :=
  entries.mergeSort (fun a b => b.stats.dropped.toNat ≤ a.stats.dropped.toNat)

lemma sorts_byDropped : Sorts byDropped where
  perm entries := List.mergeSort_perm entries _
  descending entries := by
    have htrans (a b c : IpEntry) (hab : decide (b.stats.dropped.toNat ≤ a.stats.dropped.toNat) = true)
        (hbc : decide (c.stats.dropped.toNat ≤ b.stats.dropped.toNat) = true) :
        decide (c.stats.dropped.toNat ≤ a.stats.dropped.toNat) = true := by
      simp only [decide_eq_true_eq] at hab hbc ⊢
      exact hbc.trans hab
    have htotal (a b : IpEntry) : (decide (b.stats.dropped.toNat ≤ a.stats.dropped.toNat) ||
        decide (a.stats.dropped.toNat ≤ b.stats.dropped.toNat)) = true := by
      simpa using le_total b.stats.dropped.toNat a.stats.dropped.toNat
    simpa [byDropped] using List.pairwise_mergeSort htrans htotal entries

def threePackets : List (Event 4) :=
  [.packet (.source 0x0A000001#32) ⟨1#64, false⟩, .packet (.source 0x0A000002#32) ⟨2#64, false⟩,
    .packet (.source 0x0A000001#32) ⟨3#64, false⟩]

def packetOrder : Enumeration (Kernel.runAll (.zeroed : Maps 4) threePackets).ipStats where
  order := [0x0A000002#32, 0x0A000001#32]
  nodup := by decide
  mem_iff a := by
    rw [← CellMap.mem_keys]
    have hkeys : (Kernel.runAll (.zeroed : Maps 4) threePackets).ipStats.keys =
        {0x0A000002#32, 0x0A000001#32} := by
      decide +kernel
    rw [hkeys]
    simp

theorem report_of_run_packets :
    ∃ entries rows,
      (printStatistics (some 0) (some 3) byDropped entries true).statsFile.map readStats = some (some rows) ∧
      ⟨0x0A000001#32, 0, 2, 2⟩ ∈ rows := by
  obtain ⟨-, entries, rows, -, -, hread, -, -, hrows⟩ := report_of_run threePackets (by decide +kernel) packetOrder
    byDropped sorts_byDropped
  have hmem : ⟨0x0A000001#32, 0, 2, 2⟩ ∈ rows :=
    (hrows _).mpr ⟨by decide +kernel, by decide +kernel, by decide +kernel, by decide +kernel⟩
  refine ⟨entries, rows, ?_, hmem⟩
  rw [if_neg (List.ne_nil_of_mem hmem)] at hread
  exact hread

end PacketFilter.Engine
