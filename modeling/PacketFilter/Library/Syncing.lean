import Mathlib.Tactic

/-! Keeping a table in step with a list by applying differences to the list of the time before. -/

namespace PacketFilter.Library.Syncing

section Names

variable {ε κ : Type} [DecidableEq ε] (net : ε → κ)

def named (es : List ε) : Set κ := {k | ∃ e ∈ es, net e = k}

instance [DecidableEq κ] (es : List ε) (k : κ) : Decidable (k ∈ named net es) :=
  inferInstanceAs (Decidable (∃ e ∈ es, net e = k))

def without (es es' : List ε) : List ε := es.filter (· ∉ es')

lemma mem_without {es es' : List ε} {e : ε} : e ∈ without es es' ↔ e ∈ es ∧ e ∉ es' := by simp [without]

lemma without_cons_of_mem {e : ε} {es' : List ε} (h : e ∈ es') (es : List ε) :
    without (e :: es) es' = without es es' := List.filter_cons_of_neg (by simpa using h)

lemma without_cons_of_not_mem {e : ε} {es' : List ε} (h : e ∉ es') (es : List ε) :
    without (e :: es) es' = e :: without es es' := List.filter_cons_of_pos (by simpa using h)

def synced (tracked new : List ε) (s : Set κ) : Set κ :=
  (s \ named net (without tracked new)) ∪ named net (without new tracked)

/-- No dropped entry takes the name of a kept one away, unless a new one brings it back. -/
def Undisturbed (tracked new : List ε) : Prop :=
  ∀ e ∈ tracked, e ∈ new → ∀ d ∈ without tracked new, net d = net e → net e ∈ named net (without new tracked)

instance [DecidableEq κ] (tracked new : List ε) : Decidable (Undisturbed net tracked new) :=
  inferInstanceAs (Decidable (∀ e ∈ tracked, e ∈ new → ∀ d ∈ without tracked new, net d = net e →
    net e ∈ named net (without new tracked)))

variable {net}

lemma mem_synced {tracked new : List ε} {s : Set κ} {k : κ} :
    k ∈ synced net tracked new s ↔
      (k ∈ s ∧ ∀ d ∈ without tracked new, net d ≠ k) ∨ k ∈ named net (without new tracked) := by
  simp [synced, named]

lemma named_new (tracked : List ε) {new : List ε} {k : κ} (hk : k ∈ named net new) :
    k ∈ named net (without new tracked) ∨ ∃ e ∈ tracked, e ∈ new ∧ net e = k := by
  obtain ⟨e, he, rfl⟩ := hk
  by_cases ht : e ∈ tracked
  · exact Or.inr ⟨e, ht, he, rfl⟩
  · exact Or.inl ⟨e, mem_without.mpr ⟨he, ht⟩, rfl⟩

lemma named_of_without {es es' : List ε} {k : κ} (hk : k ∈ named net (without es es')) : k ∈ named net es := by
  obtain ⟨e, he, rfl⟩ := hk
  exact ⟨e, (mem_without.mp he).1, rfl⟩

lemma synced_named {tracked new : List ε} (h : Undisturbed net tracked new) :
    synced net tracked new (named net tracked) = named net new := by
  ext k
  rw [mem_synced]
  constructor
  · rintro (⟨⟨e, he, rfl⟩, hd⟩ | hk)
    · by_cases hn : e ∈ new
      · exact ⟨e, hn, rfl⟩
      · exact absurd rfl (hd e (mem_without.mpr ⟨he, hn⟩))
    · exact named_of_without hk
  · intro hk
    rcases named_new tracked hk with hk | ⟨e, ht, hn, rfl⟩
    · exact Or.inr hk
    · by_cases hd : ∃ d ∈ without tracked new, net d = net e
      · obtain ⟨d, hd, he⟩ := hd
        exact Or.inr (h e ht hn d hd he)
      · exact Or.inl ⟨⟨e, ht, rfl⟩, fun d hm he => hd ⟨d, hm, he⟩⟩

lemma synced_eq_iff {tracked new : List ε} (ht : ∀ e ∈ tracked, ∀ d ∈ tracked, net d = net e → d = e)
    (hn : ∀ e ∈ new, ∀ d ∈ new, net d = net e → d = e) (s : Set κ) :
    synced net tracked new s = named net new ↔
      (∀ e ∈ new, e ∈ tracked → net e ∈ s) ∧ ∀ k ∈ s, k ∉ named net new → k ∈ named net tracked := by
  constructor
  · intro h
    constructor
    · intro e he het
      have hk : net e ∈ synced net tracked new s := h ▸ ⟨e, he, rfl⟩
      rcases mem_synced.mp hk with ⟨hs, _⟩ | ⟨d, hd, hde⟩
      · exact hs
      · obtain ⟨hdn, hdt⟩ := mem_without.mp hd
        exact absurd (hn e he d hdn hde ▸ het) hdt
    · intro k hs hk
      by_contra hkt
      have hm : k ∈ synced net tracked new s :=
        mem_synced.mpr (Or.inl ⟨hs, fun d hd hdk => hkt ⟨d, (mem_without.mp hd).1, hdk⟩⟩)
      exact hk (h ▸ hm)
  · rintro ⟨hkept, hleft⟩
    ext k
    rw [mem_synced]
    constructor
    · rintro (⟨hs, hd⟩ | hk)
      · by_contra hkn
        obtain ⟨e, he, rfl⟩ := hleft k hs hkn
        exact hd e (mem_without.mpr ⟨he, fun hen => hkn ⟨e, hen, rfl⟩⟩) rfl
      · exact named_of_without hk
    · intro hk
      rcases named_new tracked hk with hk | ⟨e, het, hen, rfl⟩
      · exact Or.inr hk
      · refine Or.inl ⟨hkept e hen het, ?_⟩
        intro d hd hde
        obtain ⟨hdt, hdn⟩ := mem_without.mp hd
        exact hdn (ht e het d hdt hde ▸ hen)

end Names

section Values

variable {κ ν : Type} [DecidableEq κ]

def valuesOf (es : List (κ × ν)) (k : κ) : List ν := (es.filter (·.1 = k)).map Prod.snd

def rebuilt (es : List (κ × ν)) (k : κ) : Option ν := (valuesOf es k).getLast?

lemma mem_valuesOf {es : List (κ × ν)} {k : κ} {v : ν} : v ∈ valuesOf es k ↔ (k, v) ∈ es := by
  simp only [valuesOf, List.mem_map, List.mem_filter, decide_eq_true_eq]
  constructor
  · rintro ⟨⟨k', v'⟩, ⟨he, rfl⟩, rfl⟩
    exact he
  · exact fun he => ⟨(k, v), ⟨he, rfl⟩, rfl⟩

lemma valuesOf_of_mem {es : List (κ × ν)} (h : (es.map Prod.fst).Nodup) {k : κ} {v : ν} (he : (k, v) ∈ es) :
    valuesOf es k = [v] := by
  induction es with
  | nil => cases he
  | cons e es ih =>
    obtain ⟨hnot, hnd⟩ := List.nodup_cons.mp h
    rcases List.mem_cons.mp he with rfl | he
    · have hr : valuesOf es k = [] := by
        rw [List.eq_nil_iff_forall_not_mem]
        intro w hw
        exact hnot (List.mem_map.mpr ⟨(k, w), mem_valuesOf.mp hw, rfl⟩)
      simpa [valuesOf] using hr
    · have hk : e.1 ≠ k := fun hk => hnot (List.mem_map.mpr ⟨(k, v), he, hk.symm⟩)
      simpa [valuesOf, hk] using ih hnd he

lemma rebuilt_eq_some_iff {es : List (κ × ν)} (h : (es.map Prod.fst).Nodup) {k : κ} {v : ν} :
    rebuilt es k = some v ↔ (k, v) ∈ es := by
  constructor
  · exact fun hr => mem_valuesOf.mp (List.mem_of_getLast? hr)
  · intro he
    rw [rebuilt, valuesOf_of_mem h he]
    rfl

lemma rebuilt_cons (e : κ × ν) (es : List (κ × ν)) (k : κ) :
    rebuilt (e :: es) k = (rebuilt es k).or (if e.1 = k then some e.2 else none) := by
  by_cases hk : e.1 = k
  · rw [rebuilt, valuesOf, List.filter_cons_of_pos (by simpa using hk), List.map_cons,
      List.getLast?_cons, if_pos hk]
    change some ((rebuilt es k).getD e.2) = (rebuilt es k).or (some e.2)
    cases rebuilt es k <;> rfl
  · rw [rebuilt, valuesOf, List.filter_cons_of_neg (by simpa using hk), if_neg hk, Option.or_none]
    rfl

variable [DecidableEq ν]

def rewritten (tracked new : List (κ × ν)) : List (κ × ν) :=
  new.filter (fun e => (valuesOf tracked e.1).head? ≠ some e.2)

def resynced (tracked new : List (κ × ν)) (m : κ → Option ν) (k : κ) : Option ν :=
  (rebuilt (rewritten tracked new) k).or (if valuesOf tracked k ≠ [] ∧ valuesOf new k = [] then none else m k)

/-- Where the last new value of a key is the first tracked one, all new values are, and the last tracked one too. -/
def Steady (tracked new : List (κ × ν)) : Prop :=
  ∀ k v, (valuesOf tracked k).head? = some v → rebuilt new k = some v →
    (∀ w ∈ valuesOf new k, w = v) ∧ rebuilt tracked k = some v

omit [DecidableEq ν] in
lemma steady_iff {tracked new : List (κ × ν)} :
    Steady tracked new ↔ ∀ e ∈ tracked, (valuesOf tracked e.1).head? = some e.2 → rebuilt new e.1 = some e.2 →
      (∀ w ∈ valuesOf new e.1, w = e.2) ∧ rebuilt tracked e.1 = some e.2 := by
  constructor
  · exact fun h e _ => h e.1 e.2
  · intro h k v hv
    exact h (k, v) (mem_valuesOf.mp (List.mem_of_head? hv)) hv

instance (tracked new : List (κ × ν)) : Decidable (Steady tracked new) := decidable_of_iff _ steady_iff.symm

lemma valuesOf_rewritten (tracked new : List (κ × ν)) (k : κ) :
    valuesOf (rewritten tracked new) k =
      (valuesOf new k).filter (fun v => (valuesOf tracked k).head? ≠ some v) := by
  have hn : valuesOf new k = (new.filter (·.1 = k)).map Prod.snd := rfl
  rw [hn, List.filter_map, valuesOf, rewritten, List.filter_comm]
  congr 1
  apply List.filter_congr
  intro e he
  have hk : e.1 = k := by simpa using (List.mem_filter.mp he).2
  simp [hk]

lemma getLast?_filter {α : Type} {p : α → Bool} {l : List α} {a : α} (hl : l.getLast? = some a) (hp : p a) :
    (l.filter p).getLast? = some a := by
  obtain ⟨l', rfl⟩ := List.getLast?_eq_some_iff.mp hl
  simp [hp]

lemma resynced_rebuilt {tracked new : List (κ × ν)} (h : Steady tracked new) :
    resynced tracked new (rebuilt tracked) = rebuilt new := by
  funext k
  have hs := h k
  simp only [resynced, rebuilt, valuesOf_rewritten] at hs ⊢
  cases hT : valuesOf tracked k with
  | nil => simp
  | cons t ts =>
    cases hn : (valuesOf new k).getLast? with
    | none =>
      rw [List.getLast?_eq_none_iff] at hn
      simp [hn]
    | some n =>
      have hne : valuesOf new k ≠ [] := fun h0 => by simp [h0] at hn
      by_cases hnt : n = t
      · subst n
        obtain ⟨hall, hlast⟩ := hs t (by rw [hT]; rfl) hn
        have hf : (valuesOf new k).filter (fun v => (t :: ts).head? ≠ some v) = [] := by
          rw [List.filter_eq_nil_iff]
          intro v hv
          simp [hall v hv]
        rw [hT] at hlast
        rw [hf, if_neg (fun hc => hne hc.2), hlast]
        rfl
      · rw [getLast?_filter hn (by simpa using Ne.symm hnt)]
        rfl

lemma steady_of_resynced {tracked new : List (κ × ν)} (h : resynced tracked new (rebuilt tracked) = rebuilt new) :
    Steady tracked new := by
  intro k v hv hn
  have hk := congrFun h k
  have hne : valuesOf new k ≠ [] := fun h0 => by simp [rebuilt, h0] at hn
  rw [resynced, if_neg (fun hc => hne hc.2), hn] at hk
  have hf : rebuilt (rewritten tracked new) k = none := by
    by_contra hs
    obtain ⟨w, hw⟩ := Option.ne_none_iff_exists'.mp hs
    rw [hw, Option.some_or] at hk
    cases hk
    rw [rebuilt, valuesOf_rewritten] at hw
    have hm := List.mem_of_getLast? hw
    simp [hv] at hm
  rw [hf, Option.none_or] at hk
  refine ⟨?_, hk⟩
  intro w hw
  rw [rebuilt, List.getLast?_eq_none_iff, valuesOf_rewritten, List.filter_eq_nil_iff] at hf
  have hwv := hf w hw
  simp only [hv, ne_eq, Option.some.injEq, decide_not, Bool.not_eq_true', decide_eq_false_iff_not, not_not] at hwv
  exact hwv.symm

lemma resynced_eq_iff {tracked new : List (κ × ν)} (ht : (tracked.map Prod.fst).Nodup)
    (hn : (new.map Prod.fst).Nodup) (m : κ → Option ν) :
    resynced tracked new m = rebuilt new ↔
      (∀ e ∈ new, e ∈ tracked → m e.1 = some e.2) ∧
      ∀ k, m k ≠ none → valuesOf new k = [] → valuesOf tracked k ≠ [] := by
  constructor
  · intro h
    constructor
    · rintro ⟨k, v⟩ he het
      have hk := congrFun h k
      simpa [resynced, rebuilt, valuesOf_rewritten, valuesOf_of_mem hn he, valuesOf_of_mem ht het] using hk
    · intro k hm hnil htnil
      have hk := congrFun h k
      simp [resynced, rebuilt, valuesOf_rewritten, hnil, htnil] at hk
      exact hm hk
  · rintro ⟨hkept, hleft⟩
    funext k
    simp only [resynced, rebuilt, valuesOf_rewritten]
    cases hN : valuesOf new k with
    | nil =>
      by_cases hm : m k = none
      · simp [hm]
      · simp [hleft k hm hN]
    | cons v vs =>
      have he : (k, v) ∈ new := mem_valuesOf.mp (hN ▸ List.mem_cons_self)
      obtain rfl : vs = [] := by
        have hv := valuesOf_of_mem hn he
        rw [hN] at hv
        exact (List.cons.inj hv).2
      by_cases hv : (valuesOf tracked k).head? = some v
      · have het : (k, v) ∈ tracked := mem_valuesOf.mp (List.mem_of_head? hv)
        simp [hv, hkept _ he het]
      · simp [hv]

end Values

end PacketFilter.Library.Syncing
