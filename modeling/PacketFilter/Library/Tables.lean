import PacketFilter.Library.Words

/-! Tables as text: numbers, separated fields and lines, printed and read back. -/

namespace PacketFilter.Library.Tables

open Scanning

section Numbers

def printInt (z : ℤ) : Text := if z < 0 then '-' :: Nat.toDigits 10 z.natAbs else Nat.toDigits 10 z.natAbs

lemma isDigit_of_mem_toDigits {n : ℕ} {c : Char} (h : c ∈ Nat.toDigits 10 n) : c.isDigit :=
  Nat.isDigit_of_mem_toDigits (by decide) (by decide) h

lemma decimal_toDigits (n : ℕ) : decimal (Nat.toDigits 10 n) = n := Nat.ofDigitChars_ten_toDigits

lemma takeWhile_toDigits (n : ℕ) : (Nat.toDigits 10 n).takeWhile Char.isDigit = Nat.toDigits 10 n :=
  List.takeWhile_eq_self_iff.mpr (fun _ hc => isDigit_of_mem_toDigits hc)

lemma numeral_toDigits (n : ℕ) : numeral (Nat.toDigits 10 n) = some (false, n) := by
  have hne : Nat.toDigits 10 n ≠ [] := Nat.toDigits_ne_nil
  obtain ⟨c, cs, hcs⟩ := List.exists_cons_of_ne_nil hne
  have hc : c.isDigit := isDigit_of_mem_toDigits (n := n) (by rw [hcs]; exact List.mem_cons_self)
  have hspace : (Nat.toDigits 10 n).dropWhile isSpace = Nat.toDigits 10 n := by
    rw [hcs, List.dropWhile_cons_of_neg (by simp [isSpace_of_isDigit hc])]
  have hsign : sign (Nat.toDigits 10 n) = (false, Nat.toDigits 10 n) := by
    rw [hcs]
    unfold sign
    split
    · simp_all
    · simp_all
    · rfl
  rw [numeral, hspace, hsign]
  simp only [takeWhile_toDigits, if_neg hne, decimal_toDigits]

lemma integer_printInt (z : ℤ) : integer (printInt z) = some z := by
  unfold printInt
  split_ifs with hz
  · have hnum : numeral ('-' :: Nat.toDigits 10 z.natAbs) = some (true, z.natAbs) := by
      rw [numeral, List.dropWhile_cons_of_neg (by decide)]
      simp only [sign, takeWhile_toDigits, decimal_toDigits]
      exact if_neg Nat.toDigits_ne_nil
    rw [integer, hnum]
    simp only [Option.map_some, if_true, Int.ofNat_natAbs_of_nonpos hz.le, neg_neg]
  · rw [integer, numeral_toDigits]
    simp only [Option.map_some, Bool.false_eq_true, if_false,
      Int.natAbs_of_nonneg (not_lt.mp hz)]

lemma stoul_toDigits {n : ℕ} (h : n < 2 ^ 64) : stoul (Nat.toDigits 10 n) = some (BitVec.ofNat 64 n) := by
  rw [stoul, numeral_toDigits]
  simp only [if_pos h, Bool.false_eq_true, if_false]

lemma mem_printInt {z : ℤ} {c : Char} (h : c ∈ printInt z) : c.isDigit ∨ c = '-' := by
  unfold printInt at h
  split_ifs at h
  · rcases List.mem_cons.mp h with rfl | h
    · exact .inr rfl
    · exact .inl (isDigit_of_mem_toDigits h)
  · exact .inl (isDigit_of_mem_toDigits h)

lemma printInt_ne_nil (z : ℤ) : printInt z ≠ [] := by
  unfold printInt
  split_ifs
  · simp
  · exact Nat.toDigits_ne_nil

end Numbers

section Fields

variable {delim : Char}

def joined (delim : Char) : List Text → Text
  | [] => []
  | [field] => field
  | field :: fields => field ++ delim :: joined delim fields

lemma piecesFrom_append {field : Text} (h : delim ∉ field) (acc rest : Text) :
    piecesFrom delim acc (field ++ rest) = piecesFrom delim (field.reverse ++ acc) rest := by
  induction field generalizing acc with
  | nil => rfl
  | cons c field ih =>
    obtain ⟨hc, hfield⟩ := List.ne_and_not_mem_of_not_mem_cons h
    rw [List.cons_append, piecesFrom, if_neg hc.symm, ih hfield]
    simp

lemma pieces_delim {field : Text} (h : delim ∉ field) (rest : Text) :
    pieces delim (field ++ delim :: rest) = field :: pieces delim rest := by
  rw [pieces, piecesFrom_append h, piecesFrom, if_pos rfl]
  simp [pieces]

lemma pieces_last {field : Text} (h : delim ∉ field) (hne : field ≠ []) : pieces delim field = [field] := by
  have hp := piecesFrom_append h [] []
  rw [List.append_nil, List.append_nil] at hp
  rw [pieces, hp, piecesFrom, if_neg (by simpa using hne), List.reverse_reverse]

lemma pieces_joined {fields : List Text} (h : ∀ f ∈ fields, f ≠ [] ∧ delim ∉ f) :
    pieces delim (joined delim fields) = fields := by
  induction fields with
  | nil => rfl
  | cons field fields ih =>
    obtain ⟨hne, hd⟩ := h field List.mem_cons_self
    cases fields with
    | nil => exact pieces_last hd hne
    | cons next rest =>
      rw [joined, pieces_delim hd, ih (fun f hf => h f (List.mem_cons_of_mem _ hf))]
      simp

end Fields

section Lines

def lines (texts : List Text) : Text := texts.flatMap (· ++ ['\n'])

lemma getlinesFrom_eq (acc s : Text) : getlinesFrom acc s = piecesFrom '\n' acc s := by
  induction s generalizing acc with
  | nil => rfl
  | cons c s ih => simp only [getlinesFrom, piecesFrom, ih]

lemma getlines_lines {texts : List Text} (h : ∀ t ∈ texts, '\n' ∉ t) : getlines (lines texts) = texts := by
  rw [getlines, getlinesFrom_eq]
  induction texts with
  | nil => rfl
  | cons t texts ih =>
    have hline : lines (t :: texts) = t ++ '\n' :: lines texts := by simp [lines]
    have hrest := ih (fun u hu => h u (List.mem_cons_of_mem _ hu))
    have hp := pieces_delim (h t List.mem_cons_self) (lines texts)
    rw [pieces, pieces] at hp
    rw [hline, hp, hrest]

lemma mapM_read {α β : Type} {print : α → Text} {read : Text → Option β} {g : α → β}
    (h : ∀ a, read (print a) = some (g a)) (as : List α) : (as.map print).mapM read = some (as.map g) := by
  induction as with
  | nil => rfl
  | cons a as ih =>
    rw [List.map_cons, List.mapM_cons, h, ih]
    rfl

@[simp] lemma lines_append (xs ys : List Text) : lines (xs ++ ys) = lines xs ++ lines ys := List.flatMap_append

end Lines

section Columns

def padLeft (width : ℕ) (t : Text) : Text := List.replicate (width - t.length) ' ' ++ t

def padRight (width : ℕ) (t : Text) : Text := t ++ List.replicate (width - t.length) ' '

def cells (width : ℕ) (texts : List Text) : Text := texts.flatMap (fun t => ' ' :: ' ' :: padLeft width t)

def IsWord (t : Text) : Prop := t ≠ [] ∧ ∀ c ∈ t, isSpace c = false

lemma words_blanks (n : ℕ) (s : Text) : words (List.replicate n ' ' ++ s) = words s := by
  induction n with
  | zero => rfl
  | succ n ih => rw [List.replicate_succ, List.cons_append, words_cons_space (by decide), ih]

lemma head_cells {width : ℕ} {texts : List Text} {c : Char} (hc : c ∈ (cells width texts).head?) : isSpace c := by
  cases texts with
  | nil => simp [cells] at hc
  | cons t texts =>
    obtain rfl : ' ' = c := by simpa [cells] using hc
    decide

lemma words_cells (width : ℕ) {texts : List Text} (h : ∀ t ∈ texts, IsWord t) :
    words (cells width texts) = texts := by
  induction texts with
  | nil => rfl
  | cons t texts ih =>
    have hcells : cells width (t :: texts) =
        List.replicate (2 + (width - t.length)) ' ' ++ (t ++ cells width texts) := by
      simp [cells, padLeft, List.replicate_add, List.replicate_succ]
    obtain ⟨hne, hword⟩ := h t List.mem_cons_self
    rw [hcells, words_blanks, words_append hne hword (fun c hc => head_cells hc),
      ih (fun u hu => h u (List.mem_cons_of_mem t hu))]

lemma words_row (wide width : ℕ) {t : Text} {texts : List Text} (ht : IsWord t) (h : ∀ u ∈ texts, IsWord u) :
    words (padRight wide t ++ cells width texts) = t :: texts := by
  rw [padRight, List.append_assoc, words_append ht.1 ht.2, words_blanks, words_cells width h]
  intro c hc
  cases hn : wide - t.length with
  | zero =>
    rw [hn] at hc
    exact head_cells hc
  | succ n =>
    rw [hn] at hc
    obtain rfl : ' ' = c := by simpa [List.replicate_succ] using hc
    decide

lemma isWord_toDigits (n : ℕ) : IsWord (Nat.toDigits 10 n) :=
  ⟨Nat.toDigits_ne_nil, fun _ hc => by simpa using isSpace_of_isDigit (isDigit_of_mem_toDigits hc)⟩

end Columns

end PacketFilter.Library.Tables
