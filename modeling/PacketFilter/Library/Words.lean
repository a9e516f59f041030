import PacketFilter.Library.Scanning

/-! The words of a text, between blanks, and the words that a stream reads from it one by one. -/

namespace PacketFilter.Library.Scanning

def words (s : Text) : List Text := (s.splitOnP isSpace).filter (· ≠ [])

lemma words_cons_space {c : Char} (hc : isSpace c) (s : Text) : words (c :: s) = words s := by
  have hsplit : ([] ++ c :: s).splitOnP isSpace = [] :: s.splitOnP isSpace :=
    List.splitOnP_append_cons_of_forall_mem (by simp) c hc s
  rw [List.nil_append] at hsplit
  rw [words, hsplit]
  simp [words]

lemma words_dropWhile (s : Text) : words (s.dropWhile isSpace) = words s := by
  induction s with
  | nil => rfl
  | cons c s ih =>
    cases hc : isSpace c with
    | true => rw [List.dropWhile_cons_of_pos hc, ih, words_cons_space hc]
    | false => rw [List.dropWhile_cons_of_neg (by simp [hc])]

lemma words_append {w : Text} (hw : w ≠ []) (hns : ∀ c ∈ w, isSpace c = false) {rest : Text}
    (hrest : ∀ c ∈ rest.head?, isSpace c) : words (w ++ rest) = w :: words rest := by
  cases rest with
  | nil =>
    rw [List.append_nil, words, List.splitOnP_eq_singleton hns]
    simp [words, hw]
  | cons c rest =>
    have hc : isSpace c := hrest c rfl
    rw [words_cons_space hc, words, List.splitOnP_append_cons_of_forall_mem hns c hc]
    simp [words, hw]

lemma head_dropWhile {p : Char → Bool} {s : Text} {c : Char} (hc : c ∈ (s.dropWhile p).head?) : p c = false := by
  have hnot := List.head?_dropWhile_not p s
  rwa [hc] at hnot

lemma head_token {s : Text} {c : Char} (hc : c ∈ (token s).2.head?) : isSpace c := by
  simpa using head_dropWhile hc

lemma words_eq (s : Text) : words s = if (token s).1 = [] then [] else (token s).1 :: words (token s).2 := by
  have htoken : s.dropWhile isSpace = (token s).1 ++ (token s).2 := List.takeWhile_append_dropWhile.symm
  rw [← words_dropWhile s]
  split_ifs with hnil
  · rw [hnil, List.nil_append] at htoken
    cases hrest : (token s).2 with
    | nil =>
      rw [htoken, hrest]
      rfl
    | cons c r =>
      have hspace : isSpace c := head_token (by rw [hrest]; rfl)
      have hnot : isSpace c = false := head_dropWhile (by rw [htoken, hrest]; rfl)
      rw [hnot] at hspace
      cases hspace
  · rw [htoken]
    exact words_append hnil (fun c hc => by simpa using List.mem_takeWhile_imp hc) (fun c hc => head_token hc)

lemma words_eq_nil {s : Text} : words s = [] ↔ word 0 s = [] := by
  rw [words_eq, word]
  split_ifs with h <;> simp [h]

lemma words_eq_cons {s w : Text} {ws : List Text} :
    words s = w :: ws ↔ word 0 s = w ∧ w ≠ [] ∧ words (token s).2 = ws := by
  rw [words_eq, word]
  split_ifs with h
  · refine iff_of_false (by simp) ?_
    rintro ⟨rfl, hne, -⟩
    exact hne h
  · simp only [List.cons.injEq]
    constructor
    · rintro ⟨rfl, rfl⟩
      exact ⟨rfl, h, rfl⟩
    · rintro ⟨rfl, -, rfl⟩
      exact ⟨rfl, rfl⟩

lemma words_one {s a : Text} : words s = [a] ↔ word 0 s = a ∧ a ≠ [] ∧ word 1 s = [] := by
  rw [words_eq_cons, words_eq_nil]
  rfl

lemma words_two {s a b : Text} :
    words s = [a, b] ↔ word 0 s = a ∧ a ≠ [] ∧ word 1 s = b ∧ b ≠ [] ∧ word 2 s = [] := by
  rw [words_eq_cons, words_one]
  rfl

lemma words_three {s a b c : Text} :
    words s = [a, b, c] ↔
      word 0 s = a ∧ a ≠ [] ∧ word 1 s = b ∧ b ≠ [] ∧ word 2 s = c ∧ c ≠ [] ∧ word 3 s = [] := by
  rw [words_eq_cons, words_two]
  rfl

end PacketFilter.Library.Scanning
