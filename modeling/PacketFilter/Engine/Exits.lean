import PacketFilter.Engine.Runs

/-! The ways out of a reload: what it returns or throws, and the state it leaves behind. -/

namespace PacketFilter.Engine

open Library Library.Scanning Kernel

variable {N : ℕ}

namespace State

variable (env : Env N) (call : Call) (s : State N)

def Takes (name : Text) : Prop :=
  if s.filterInterfaceName = [] then env.ifNametoindex name ≠ 0 else s.filterInterfaceName = name

instance (name : Text) : Decidable (s.Takes env name) := inferInstanceAs
  (Decidable (if s.filterInterfaceName = [] then env.ifNametoindex name ≠ 0 else s.filterInterfaceName = name))

/-- No exception gets out, and a call that fails changes nothing. -/
structure Contained : Prop where
  returns : (s.updateFromConfig env call).1 = .returned 0 ∨ (s.updateFromConfig env call).1 = .returned (-1)
  unchanged : (s.updateFromConfig env call).1 = .returned (-1) → (s.updateFromConfig env call).2 = s

/-- The interface is taken, and an entry of the blacklist has no numeral of an `int` after its slash. -/
def ThrowsOn : Prop :=
  ∃ f ∈ call.fields, (∃ name ∈ f.ifaceName, s.Takes env name) ∧
    ∃ list ∈ f.subnetList, ∃ e ∈ entriesOf list, (splitSubnet e).2 = none

/-- The first file names an interface that the system does not know, and this shows in the state. -/
def NamesUnknown : Prop :=
  s.filterInterfaceName = [] ∧ ∃ f ∈ call.fields, ∃ name ∈ f.ifaceName,
    env.ifNametoindex name = 0 ∧ (name ≠ [] ∨ s.currentIfindex ≠ 0)

instance : Decidable (s.ThrowsOn env call) := inferInstanceAs (Decidable (∃ f ∈ call.fields, _ ∧ _))

instance : Decidable (s.NamesUnknown env call) := inferInstanceAs (Decidable (_ ∧ ∃ f ∈ call.fields, _))

end State

lemma parseSubnet_threw_iff (e : Text) : parseSubnet e = .threw ↔ (splitSubnet e).2 = none := by
  unfold parseSubnet subnetNode
  cases (splitSubnet e).2 with
  | none => simp
  | some n =>
    cases inetPton (splitSubnet e).1 with
    | none => simp
    | some ip =>
      simp only [reduceCtorEq, iff_false]
      split_ifs <;> simp

lemma parseSubnets_eq_none_iff (entries : List Text) :
    parseSubnets entries = none ↔ ∃ e ∈ entries, (splitSubnet e).2 = none := by
  induction entries with
  | nil => simp [parseSubnets]
  | cons e entries ih =>
    have he := parseSubnet_threw_iff e
    rw [parseSubnets]
    cases hp : parseSubnet e with
    | threw => simp [he.mp hp]
    | invalid =>
      have hn : (splitSubnet e).2 ≠ none := fun h => by simp [he.mpr h] at hp
      simp [ih, hn]
    | entry node =>
      have hn : (splitSubnet e).2 ≠ none := fun h => by simp [he.mpr h] at hp
      simp [ih, hn]

lemma Fields.newSubnets_eq_none_iff (f : Fields) :
    f.newSubnets = none ↔ ∃ list ∈ f.subnetList, ∃ e ∈ entriesOf list, (splitSubnet e).2 = none := by
  rw [Fields.newSubnets]
  cases f.subnetList with
  | none => simp
  | some list => simp [parseSubnets_eq_none_iff]

namespace State

section Exits

variable {env : Env N} {call : Call} {s : State N}

lemma setInterface_fst_iff (name : Text) : (s.setInterface env name).1 = true ↔ s.Takes env name := by
  unfold setInterface Takes
  split_ifs with he
  · simp
  · simp

lemma setInterface_of_not_takes {name : Text} (h : ¬ s.Takes env name) :
    (s.setInterface env name).2 = s ↔
      ¬ (s.filterInterfaceName = [] ∧ env.ifNametoindex name = 0 ∧ (name ≠ [] ∨ s.currentIfindex ≠ 0)) := by
  unfold setInterface
  unfold Takes at h
  split_ifs at h ⊢ with he
  · rw [not_not] at h
    obtain ⟨host, signal, filterName, ifindex, subnets, limits⟩ := s
    obtain rfl : filterName = [] := he
    simp only [h, State.mk.injEq, true_and, and_true, not_or, not_not, eq_comm]
  · simp [he]

lemma not_contained_of_threw (h : (s.updateFromConfig env call).1 = .threw) : ¬ s.Contained env call := by
  intro hc
  rcases hc.returns with hr | hr <;> rw [h] at hr <;> cases hr

lemma contained_of_returned (h : (s.updateFromConfig env call).1 = .returned 0) : s.Contained env call := by
  refine ⟨Or.inl h, ?_⟩
  intro hr
  rw [h] at hr
  cases hr

lemma contained_iff_of_failed (h : (s.updateFromConfig env call).1 = .returned (-1)) :
    s.Contained env call ↔ (s.updateFromConfig env call).2 = s :=
  ⟨fun hc => hc.unchanged h, fun he => ⟨Or.inr h, fun _ => he⟩⟩

lemma update_of_unnamed (h : ∀ f ∈ call.fields, f.ifaceName = none) :
    s.updateFromConfig env call = (.returned (-1), s) := by
  cases hfile : call.file with
  | none => simp only [updateFromConfig, hfile]
  | some text =>
    have hname : (fieldsOf text).ifaceName = none := h _ (Option.map_eq_some_iff.mpr ⟨text, hfile, rfl⟩)
    simp only [updateFromConfig, hfile, hname]

section Named

variable {text name : Text} (hfile : call.file = some text) (hname : (fieldsOf text).ifaceName = some name)
include hfile hname

lemma update_of_refused (h : ¬ s.Takes env name) :
    s.updateFromConfig env call = (.returned (-1), (s.setInterface env name).2) := by
  simp only [updateFromConfig, hfile, hname]
  cases he : s.setInterface env name with
  | mk b t =>
    have hb : b ≠ true := fun hb => h ((setInterface_fst_iff name).mp (by rw [he, hb]))
    obtain rfl : b = false := by simpa using hb
    rfl

lemma update_of_bad_subnets (h : s.Takes env name) (hsub : (fieldsOf text).newSubnets = none) :
    (s.updateFromConfig env call).1 = .threw := by
  have hset := (setInterface_fst_iff name).mpr h
  simp only [updateFromConfig, hfile, hname]
  cases he : s.setInterface env name with
  | mk b t =>
    obtain rfl : b = true := by simpa [he] using hset
    simp only [hsub]

lemma update_of_subnets (h : s.Takes env name) (hsub : (fieldsOf text).newSubnets ≠ none) :
    (s.updateFromConfig env call).1 = .returned 0 := by
  have hfields : call.fields = some (fieldsOf text) := Option.map_eq_some_iff.mpr ⟨text, hfile, rfl⟩
  have ha : s.Accepts env call :=
    ⟨_, hfields, ⟨name, hname, (setInterface_fst_iff name).mpr h⟩, Option.isSome_iff_ne_none.mpr hsub⟩
  exact (step_of_accepts ha).1

lemma throwsOn_iff : s.ThrowsOn env call ↔ s.Takes env name ∧ (fieldsOf text).newSubnets = none := by
  have hfields : call.fields = some (fieldsOf text) := Option.map_eq_some_iff.mpr ⟨text, hfile, rfl⟩
  rw [Fields.newSubnets_eq_none_iff]
  simp [ThrowsOn, hfields, hname]

lemma namesUnknown_iff : s.NamesUnknown env call ↔
    s.filterInterfaceName = [] ∧ env.ifNametoindex name = 0 ∧ (name ≠ [] ∨ s.currentIfindex ≠ 0) := by
  have hfields : call.fields = some (fieldsOf text) := Option.map_eq_some_iff.mpr ⟨text, hfile, rfl⟩
  simp [NamesUnknown, hfields, hname]

lemma not_namesUnknown_of_takes (h : s.Takes env name) : ¬ s.NamesUnknown env call := by
  rw [namesUnknown_iff hfile hname]
  rintro ⟨he, h0, -⟩
  rw [Takes, if_pos he] at h
  exact h h0

lemma contained_named_iff : s.Contained env call ↔ ¬ s.ThrowsOn env call ∧ ¬ s.NamesUnknown env call := by
  by_cases ht : s.Takes env name
  · have hnames := not_namesUnknown_of_takes hfile hname ht
    by_cases hsub : (fieldsOf text).newSubnets = none
    · have hthrows : s.ThrowsOn env call := (throwsOn_iff hfile hname).mpr ⟨ht, hsub⟩
      exact iff_of_false (not_contained_of_threw (update_of_bad_subnets hfile hname ht hsub))
        (fun h => h.1 hthrows)
    · have hthrows : ¬ s.ThrowsOn env call := fun h => hsub ((throwsOn_iff hfile hname).mp h).2
      exact iff_of_true (contained_of_returned (update_of_subnets hfile hname ht hsub)) ⟨hthrows, hnames⟩
  · have hu := update_of_refused hfile hname ht
    have hthrows : ¬ s.ThrowsOn env call := fun h => ht ((throwsOn_iff hfile hname).mp h).1
    rw [contained_iff_of_failed (by rw [hu]), hu, setInterface_of_not_takes ht, namesUnknown_iff hfile hname,
      and_iff_right hthrows]

end Named

end Exits

end State

theorem update_contained_iff (env : Env N) (call : Call) (s : State N) :
    s.Contained env call ↔ ¬ s.ThrowsOn env call ∧ ¬ s.NamesUnknown env call := by
  by_cases hname : ∃ f ∈ call.fields, ∃ name, f.ifaceName = some name
  · obtain ⟨f, hfields, name, hname⟩ := hname
    obtain ⟨text, hfile, rfl⟩ := Option.map_eq_some_iff.mp hfields
    exact State.contained_named_iff hfile hname
  · have hnone : ∀ f ∈ call.fields, f.ifaceName = none := by
      intro f hf
      by_contra hn
      exact hname ⟨f, hf, Option.ne_none_iff_exists'.mp hn⟩
    have hu : s.updateFromConfig env call = (.returned (-1), s) := State.update_of_unnamed hnone
    rw [State.contained_iff_of_failed (by rw [hu]), hu]
    refine iff_of_true rfl ⟨?_, ?_⟩
    · rintro ⟨f, hf, ⟨name, hn, -⟩, -⟩
      exact hname ⟨f, hf, name, hn⟩
    · rintro ⟨-, f, hf, name, hn, -⟩
      exact hname ⟨f, hf, name, hn⟩

def badPrefix : Call := reload "interface=eth0\nip_blacklist=10.0.0.0/x"

def offline : Env 4 := { quiet with ifNametoindex := fun _ => 0 }

theorem update_not_contained :
    (unloaded.updateFromConfig quiet badPrefix).1 = .threw ∧ ¬ unloaded.Contained quiet badPrefix ∧
    (unloaded.updateFromConfig offline (reload "interface=eth0")).1 = .returned (-1) ∧
    (unloaded.updateFromConfig offline (reload "interface=eth0")).2.filterInterfaceName = eth0 ∧
    ¬ unloaded.Contained offline (reload "interface=eth0") := by
  have hthrew : (unloaded.updateFromConfig quiet badPrefix).1 = .threw := by decide +kernel
  have hfailed : (unloaded.updateFromConfig offline (reload "interface=eth0")).1 = .returned (-1) := by
    decide +kernel
  have hname : (unloaded.updateFromConfig offline (reload "interface=eth0")).2.filterInterfaceName = eth0 := by
    decide +kernel
  refine ⟨hthrew, State.not_contained_of_threw hthrew, hfailed, hname, ?_⟩
  intro hc
  rw [hc.unchanged hfailed] at hname
  cases hname

end PacketFilter.Engine
