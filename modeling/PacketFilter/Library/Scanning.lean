import Mathlib.Data.List.DropRight
import Mathlib.Data.BitVec
import Mathlib.Tactic

/-! Text as the C and C++ libraries scan it: streams, numerals, lines and dotted addresses. -/

namespace PacketFilter.Library.Scanning

abbrev Text := List Char

def isSpace (c : Char) : Bool :=
  c = ' ' || c = '\t' || c = '\n' || c = '\x0b' || c = '\x0c' || c = '\r'

def token (s : Text) : Text × Text :=
  ((s.dropWhile isSpace).takeWhile (!isSpace ·), (s.dropWhile isSpace).dropWhile (!isSpace ·))

def splitFirst (c : Char) (s : Text) : Option (Text × Text) :=
  if c ∈ s then some (s.takeWhile (· ≠ c), (s.dropWhile (· ≠ c)).tail) else none

def isBlank (c : Char) : Bool := c = ' ' || c = '\t' || c = '\n' || c = '\r'

def trim (s : Text) : Text := (s.dropWhile isBlank).rdropWhile isBlank

def isMargin (c : Char) : Bool := c = ' ' || c = '\t' || c = '\r'

def strip (s : Text) : Text := (s.dropWhile isMargin).rdropWhile isMargin

def word : ℕ → Text → Text
  | 0, s => (token s).1
  | n + 1, s => word n (token s).2

def getlinesFrom (line : Text) : Text → List Text
  | [] => if line = [] then [] else [line.reverse]
  | c :: s => if c = '\n' then line.reverse :: getlinesFrom [] s else getlinesFrom (c :: line) s

/-- The lines that repeated `getline` calls give; a final line end opens no further line. -/
def getlines (s : Text) : List Text := getlinesFrom [] s

def piecesFrom (delim : Char) (piece : Text) : Text → List Text
  | [] => if piece = [] then [] else [piece.reverse]
  | c :: s => if c = delim then piece.reverse :: piecesFrom delim [] s else piecesFrom delim (c :: piece) s

def pieces (delim : Char) (s : Text) : List Text := piecesFrom delim [] s

def digit (c : Char) : ℕ := c.toNat - '0'.toNat

def decimal (s : Text) : ℕ := s.foldl (fun n c => 10 * n + digit c) 0

def sign : Text → Bool × Text
  | '-' :: s => (true, s)
  | '+' :: s => (false, s)
  | s => (false, s)

def numeral (s : Text) : Option (Bool × ℕ) :=
  let (negative, rest) := sign (s.dropWhile isSpace)
  let digits := rest.takeWhile Char.isDigit
  if digits = [] then none else some (negative, decimal digits)

/-- `strtoul` on 64 bits: a magnitude out of range is an error, a minus sign wraps around. -/
def stoul (s : Text) : Option (BitVec 64) :=
  match numeral s with
  | none => none
  | some (negative, n) =>
    if n < 2 ^ 64 then some (if negative then -BitVec.ofNat 64 n else BitVec.ofNat 64 n) else none

/-- The integer that a text begins with, blanks and sign included. -/
def integer (s : Text) : Option ℤ := (numeral s).map (fun x => if x.1 then -(x.2 : ℤ) else x.2)

/-- `num_get` into 32 bits: the magnitude has to fit them, and a minus sign wraps around in them. -/
def extractUint32 (s : Text) : Option (BitVec 32) :=
  match numeral s with
  | none => none
  | some (negative, n) =>
    if n < 2 ^ 32 then some (if negative then -BitVec.ofNat 32 n else BitVec.ofNat 32 n) else none

def cString (s : Text) : Text := s.takeWhile (· ≠ '\x00')

structure Quad where
  octets : ℕ
  sawDigit : Bool
  current : ℕ
  done : List ℕ

def Quad.step (q : Quad) (c : Char) : Option Quad :=
  if c.isDigit then
    if q.sawDigit ∧ q.current = 0 then none
    else if q.current * 10 + digit c > 255 then none
    else if q.sawDigit then some { q with current := q.current * 10 + digit c }
    else if q.octets = 4 then none
    else some { q with current := q.current * 10 + digit c, sawDigit := true, octets := q.octets + 1 }
  else if c = '.' ∧ q.sawDigit then
    if q.octets = 4 then none
    else some { q with done := q.done ++ [q.current], current := 0, sawDigit := false }
  else none

/-- `inet_pton` for `AF_INET`, the address given with its first byte most significant. -/
def inetPton (s : Text) : Option (BitVec 32) :=
  match (cString s).foldlM Quad.step ⟨0, false, 0, []⟩ with
  | none => none
  | some q =>
    if q.octets < 4 then none
    else some (BitVec.ofNat 32 ((q.done ++ [q.current]).foldl (fun n b => 256 * n + b) 0))

lemma stoul_eq (s : Text) :
    stoul s = (integer s).bind (fun z => if z.natAbs < 2 ^ 64 then some (BitVec.ofInt 64 z) else none) := by
  unfold stoul integer
  cases numeral s with
  | none => rfl
  | some x =>
    obtain ⟨negative, n⟩ := x
    cases negative <;> simp [BitVec.ofInt_neg]

lemma toNat_ofInt32 (z : ℤ) : ((BitVec.ofInt 32 z).toNat : ℤ) = z % 2 ^ 32 := by
  rw [BitVec.toNat_ofInt]
  omega

lemma setWidth_ofInt (z : ℤ) : (BitVec.ofInt 64 z).setWidth 32 = BitVec.ofInt 32 z := by
  apply BitVec.eq_of_toNat_eq
  rw [BitVec.toNat_setWidth, BitVec.toNat_ofInt, BitVec.toNat_ofInt]
  omega

lemma extractUint32_eq (s : Text) :
    extractUint32 s = (integer s).bind (fun z =>
      if z.natAbs < 2 ^ 32 then some (BitVec.ofInt 32 z) else none) := by
  unfold extractUint32 integer
  cases numeral s with
  | none => rfl
  | some x =>
    obtain ⟨negative, n⟩ := x
    cases negative <;> simp [BitVec.ofInt_neg]

lemma isSpace_of_isDigit {c : Char} (h : c.isDigit) : isSpace c = false := by
  by_contra hs
  simp only [Bool.not_eq_false, isSpace, Bool.or_eq_true, decide_eq_true_eq] at hs
  rcases hs with ((((rfl | rfl) | rfl) | rfl) | rfl) | rfl <;> revert h <;> decide

lemma takeWhile_isDigit_takeWhile (s : Text) :
    (s.takeWhile (!isSpace ·)).takeWhile Char.isDigit = s.takeWhile Char.isDigit := by
  rw [List.takeWhile_takeWhile]
  congr 1
  funext c
  cases hd : c.isDigit with
  | false => simp
  | true => simp [isSpace_of_isDigit hd]

lemma sign_takeWhile (s : Text) :
    sign (s.takeWhile (!isSpace ·)) = ((sign s).1, (sign s).2.takeWhile (!isSpace ·)) := by
  cases s with
  | nil => rfl
  | cons c s =>
    by_cases hm : c = '-'
    · subst c
      rfl
    by_cases hp : c = '+'
    · subst c
      rfl
    have hs (t : Text) : sign (c :: t) = (false, c :: t) := by
      unfold sign
      split
      · rename_i h
        exact absurd (List.cons.inj h).1 hm
      · rename_i h
        exact absurd (List.cons.inj h).1 hp
      · rfl
    rw [hs]
    by_cases hc : isSpace c = true
    · simp [hc, sign]
    · simp [hc, hs]

lemma numeral_token (s : Text) : numeral (token s).1 = numeral s := by
  have hd : (token s).1.dropWhile isSpace = (token s).1 := by
    rw [List.dropWhile_eq_self_iff]
    intro hl
    have hm := List.mem_takeWhile_imp (List.getElem_mem hl)
    simpa using hm
  simp only [numeral, hd]
  rw [token, sign_takeWhile]
  simp only [takeWhile_isDigit_takeWhile]

lemma extractUint32_rest (s : Text) : extractUint32 s = (integer (token s).1).bind (fun z =>
    if z.natAbs < 2 ^ 32 then some (BitVec.ofInt 32 z) else none) := by
  rw [extractUint32_eq, integer, integer, numeral_token]

lemma isSpace_of_isMargin {c : Char} (h : isMargin c) : isSpace c := by
  simp only [isMargin, Bool.or_eq_true, decide_eq_true_eq] at h
  rcases h with (rfl | rfl) | rfl <;> rfl

lemma token_append_left {a : Text} (ha : ∀ c ∈ a, isSpace c) (s : Text) : token (a ++ s) = token s := by
  simp only [token, List.dropWhile_append_of_pos ha]

lemma dropWhile_append_spaces {b : Text} (hb : ∀ c ∈ b, isSpace c) (s : Text) :
    (s ++ b).dropWhile (!isSpace ·) = s.dropWhile (!isSpace ·) ++ b := by
  induction s with
  | nil =>
    cases b with
    | nil => rfl
    | cons c b => simp [hb c List.mem_cons_self]
  | cons c s ih => cases hc : isSpace c <;> simp [hc, ih]

lemma takeWhile_append_spaces {b : Text} (hb : ∀ c ∈ b, isSpace c) (s : Text) :
    (s ++ b).takeWhile (!isSpace ·) = s.takeWhile (!isSpace ·) := by
  induction s with
  | nil =>
    cases b with
    | nil => rfl
    | cons c b => simp [hb c List.mem_cons_self]
  | cons c s ih => cases hc : isSpace c <;> simp [hc, ih]

lemma dropWhile_isSpace_append {b : Text} (hb : ∀ c ∈ b, isSpace c) (s : Text) :
    ∃ b', (∀ c ∈ b', isSpace c) ∧ (s ++ b).dropWhile isSpace = s.dropWhile isSpace ++ b' := by
  induction s with
  | nil => exact ⟨[], by simp, by simpa using hb⟩
  | cons c s ih =>
    cases hc : isSpace c with
    | true => simpa [hc] using ih
    | false => exact ⟨b, hb, by simp [hc]⟩

lemma token_append_right {b : Text} (hb : ∀ c ∈ b, isSpace c) (s : Text) :
    (token (s ++ b)).1 = (token s).1 ∧ ∃ b', (∀ c ∈ b', isSpace c) ∧ (token (s ++ b)).2 = (token s).2 ++ b' := by
  obtain ⟨b', hb', he⟩ := dropWhile_isSpace_append hb s
  simp only [token, he]
  exact ⟨takeWhile_append_spaces hb' _, b', hb', dropWhile_append_spaces hb' _⟩

lemma word_append_left {a : Text} (ha : ∀ c ∈ a, isSpace c) (n : ℕ) (s : Text) : word n (a ++ s) = word n s := by
  cases n <;> simp only [word, token_append_left ha]

lemma word_append_right {b : Text} (hb : ∀ c ∈ b, isSpace c) (n : ℕ) (s : Text) : word n (s ++ b) = word n s := by
  induction n generalizing s b with
  | zero => exact (token_append_right hb s).1
  | succ n ih =>
    obtain ⟨_, b', hb', he⟩ := token_append_right hb s
    rw [word, he, ih hb', word]

lemma exists_margins (s : Text) :
    ∃ a b, s = a ++ (strip s ++ b) ∧ (∀ c ∈ a, isMargin c) ∧ ∀ c ∈ b, isMargin c := by
  refine ⟨s.takeWhile isMargin, (s.dropWhile isMargin).rtakeWhile isMargin, ?_, ?_, ?_⟩
  · rw [strip, List.rdropWhile_append_rtakeWhile, List.takeWhile_append_dropWhile]
  · exact fun c hc => List.mem_takeWhile_imp hc
  · exact fun c hc => List.mem_rtakeWhile_imp hc

lemma word_strip (n : ℕ) (s : Text) : word n (strip s) = word n s := by
  obtain ⟨a, b, he, ha, hb⟩ := exists_margins s
  calc word n (strip s)
      = word n (strip s ++ b) := (word_append_right (fun c hc => isSpace_of_isMargin (hb c hc)) n _).symm
    _ = word n (a ++ (strip s ++ b)) := (word_append_left (fun c hc => isSpace_of_isMargin (ha c hc)) n _).symm
    _ = word n s := by rw [← he]

lemma strip_isPrefix {s : Text} (h : ∀ c ∈ s.head?, ¬ isMargin c) : strip s <+: s := by
  have hd : s.dropWhile isMargin = s := by
    cases s with
    | nil => rfl
    | cons c s => simp [h c rfl]
  rw [strip, hd]
  exact List.rdropWhile_prefix _ _

end PacketFilter.Library.Scanning
