import Mathlib.Tactic

/-! Machines with a partial step for each action, run over a schedule of actions. -/

namespace PacketFilter.Library.Machines

variable {S A : Type} (step : S → A → Option S)

def runs : S → List A → Option S
  | s, [] => some s
  | s, a :: as => (step s a).bind (fun t => runs t as)

/-- Each action of the schedule meets `C` in the state it is taken in. -/
def Along (C : S → A → Prop) : S → List A → Prop
  | _, [] => True
  | s, a :: as => C s a ∧ ∀ t ∈ step s a, Along C t as

instance decidableAlong {C : S → A → Prop} [∀ s a, Decidable (C s a)] :
    (s : S) → (as : List A) → Decidable (Along step C s as)
  | _, [] => isTrue trivial
  | s, a :: as =>
    have (t : S) : Decidable (Along step C t as) := decidableAlong t as
    inferInstanceAs (Decidable (C s a ∧ ∀ t ∈ step s a, Along step C t as))

variable {step}

@[simp] lemma runs_nil (s : S) : runs step s [] = some s := rfl

def reached (step : S → A → Option S) (s : S) (as : List A) : S := (runs step s as).getD s

lemma runs_reached (step : S → A → Option S) (s : S) (as : List A) (h : (runs step s as).isSome) :
    runs step s as = some (reached step s as) := by
  obtain ⟨t, ht⟩ := Option.isSome_iff_exists.mp h
  rw [reached, ht, Option.getD_some]

lemma runs_cons {s u : S} {a : A} {as : List A} :
    runs step s (a :: as) = some u ↔ ∃ t, step s a = some t ∧ runs step t as = some u := by
  simp [runs, Option.bind_eq_some_iff]

lemma runs_append {s u : S} {as bs : List A} :
    runs step s (as ++ bs) = some u ↔ ∃ t, runs step s as = some t ∧ runs step t bs = some u := by
  induction as generalizing s with
  | nil => simp
  | cons a as ih =>
    simp only [List.cons_append, runs_cons, ih]
    constructor
    · rintro ⟨r, hr, t, ht, hu⟩
      exact ⟨t, ⟨r, hr, ht⟩, hu⟩
    · rintro ⟨t, ⟨r, hr, ht⟩, hu⟩
      exact ⟨r, hr, t, ht, hu⟩

lemma along_append {C : S → A → Prop} {s : S} {as bs : List A} :
    Along step C s (as ++ bs) ↔ Along step C s as ∧ ∀ t, runs step s as = some t → Along step C t bs := by
  induction as generalizing s with
  | nil => simp [Along]
  | cons a as ih =>
    simp only [List.cons_append, Along, ih, runs_cons]
    constructor
    · rintro ⟨hc, h⟩
      exact ⟨⟨hc, fun t ht => (h t ht).1⟩, fun u ⟨t, ht, hu⟩ => (h t ht).2 u hu⟩
    · rintro ⟨⟨hc, h⟩, hu⟩
      exact ⟨hc, fun t ht => ⟨h t ht, fun u hr => hu u ⟨t, ht, hr⟩⟩⟩

lemma invariant_along {C : S → A → Prop} {I : S → Prop}
    (hstep : ∀ s a t, I s → C s a → step s a = some t → I t) {s t : S} {as : List A} (hs : I s)
    (hc : Along step C s as) (hr : runs step s as = some t) : I t := by
  induction as generalizing s with
  | nil =>
    cases hr
    exact hs
  | cons a as ih =>
    obtain ⟨u, hu, hr⟩ := runs_cons.mp hr
    exact ih (hstep s a u hs hc.1 hu) (hc.2 u hu) hr

lemma invariant_runs {I : S → Prop} (hstep : ∀ s a t, I s → step s a = some t → I t) {s t : S} {as : List A}
    (hs : I s) (hr : runs step s as = some t) : I t := by
  induction as generalizing s with
  | nil =>
    cases hr
    exact hs
  | cons a as ih =>
    obtain ⟨u, hu, hr⟩ := runs_cons.mp hr
    exact ih (hstep s a u hs hu) hr

lemma countP_add_le {I : S → Prop} {C : A → Prop} {moves : A → Bool} {μ : S → ℕ}
    (hstep : ∀ s a t, I s → C a → step s a = some t → I t ∧ (if moves a then 1 else 0) + μ t ≤ μ s) {s t : S}
    {as : List A} (hs : I s) (hc : ∀ a ∈ as, C a) (hr : runs step s as = some t) :
    I t ∧ as.countP moves + μ t ≤ μ s := by
  induction as generalizing s with
  | nil =>
    cases hr
    simp [hs]
  | cons a as ih =>
    obtain ⟨u, hu, hr⟩ := runs_cons.mp hr
    obtain ⟨hi, hle⟩ := hstep s a u hs (hc a List.mem_cons_self) hu
    obtain ⟨ht, hrest⟩ := ih hi (fun b hb => hc b (List.mem_cons_of_mem a hb)) hr
    refine ⟨ht, ?_⟩
    rw [List.countP_cons]
    omega

end PacketFilter.Library.Machines
