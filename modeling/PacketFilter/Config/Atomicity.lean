import PacketFilter.Config.Streams

/-! An event line changes one entry of the maps, and does what it commands, or changes nothing. -/

namespace PacketFilter.Config

open Library Library.Programs Library.Scanning Kernel Prog

variable {N : ℕ}

inductive Entry where
  | flag (slot : Fin 20)
  | subnet (l : SubnetList) (net : Network 32)
  | limit (ip : Addr)

namespace Entry

def Same (v v' : View) : Entry → Prop
  | .flag slot => v.configState slot = v'.configState slot
  | .subnet l net => v.nets l net = v'.nets l net
  | .limit ip => v.limits ip = v'.limits ip

lemma same_refl (v : View) (e : Entry) : e.Same v v := by
  cases e <;> rfl

def BelongsTo (k : Kind) : Entry → Prop
  | .flag slot => slot = k.slot
  | .subnet l _ => k = .subnets l
  | .limit _ => k = .ratelimit

end Entry

namespace Command

def entry : Command → Entry
  | .setFlag kind _ => .flag kind.slot
  | .addNet l net | .removeNet l net => .subnet l net
  | .addLimit ip _ | .removeLimit ip => .limit ip

def Achieved (v : View) : Command → Prop
  | .setFlag kind on => v.configState kind.slot = if on then 1 else 0
  | .addNet l net => v.nets l net = some 1
  | .removeNet l net => v.nets l net = none
  | .addLimit ip config => v.limits ip = some config
  | .removeLimit ip => v.limits ip = none

lemma achieved_apply (c : Command) (v : View) : c.Achieved (c.apply v) := by
  cases c <;> simp [Achieved, apply]

lemma same_apply (c : Command) (v : View) {e : Entry} (he : e ≠ c.entry) : e.Same v (c.apply v) := by
  cases e with
  | flag slot =>
    cases c with
    | setFlag kind on =>
      have hslot : slot ≠ kind.slot := fun hs => he (by rw [hs]; rfl)
      exact (Function.update_of_ne hslot _ _).symm
    | _ => rfl
  | subnet l net =>
    cases c with
    | addNet l' net' =>
      have hnet : ¬ (l = l' ∧ net = net') := fun hn => he (by rw [hn.1, hn.2]; rfl)
      exact (if_neg hnet).symm
    | removeNet l' net' =>
      have hnet : ¬ (l = l' ∧ net = net') := fun hn => he (by rw [hn.1, hn.2]; rfl)
      exact (if_neg hnet).symm
    | _ => rfl
  | limit ip =>
    cases c with
    | addLimit ip' config =>
      have hip : ip ≠ ip' := fun hi => he (by rw [hi]; rfl)
      exact (if_neg hip).symm
    | removeLimit ip' =>
      have hip : ip ≠ ip' := fun hi => he (by rw [hi]; rfl)
      exact (if_neg hip).symm
    | _ => rfl

end Command

lemma entry_of_readCommand {k : Kind} {message : Text} {c : Command} (h : readCommand k message = some c) :
    c.entry.BelongsTo k := by
  cases k with
  | subnets l =>
    have hreads := l.reads ⟨0, 0⟩ message
    have hread : readSubnetCommand l message = some c := h
    rw [hread] at hreads
    generalize l.updateConfig ⟨0, 0⟩ message = p at hreads
    cases hreads <;> rfl
  | ratelimit =>
    have hreads := RateLimit.reads ⟨0, 0⟩ message
    have hread : readRateCommand message = some c := h
    rw [hread] at hreads
    generalize RateLimit.updateConfig ⟨0, 0⟩ message = p at hreads
    cases hreads <;> rfl

section Lines

variable (faults : Faults N) {configTypes : List ConfigType} {line : Text} {h : Host N}

lemma handler_eq_none (hn : ∀ c ∈ configTypes, ¬ AddressedTo c.kind line) : handler configTypes line = none := by
  cases hc : handler configTypes line with
  | none => rfl
  | some x =>
    obtain ⟨c, message⟩ := x
    obtain ⟨y, -, hf⟩ := Option.bind_eq_some_iff.mp hc
    obtain ⟨d, hd, he⟩ := Option.map_eq_some_iff.mp hf
    cases he
    exact absurd ((handler_kind hc c.kind).mpr rfl) (hn c (List.mem_of_find?_eq_some hd))

def eventSettings (configTypes : List ConfigType) (line : Text) (h : Host N) : Settings N :=
  (run (Sys.exec faults) (processEventMessage configTypes line) h).2.settings

lemma eventSettings_of_none (hn : handler configTypes line = none) :
    eventSettings faults configTypes line h = h.settings :=
  congrArg (fun r => r.1.settings) (processLine_of_none faults hn h)

variable {c : ConfigType} {message : Text} (hc : handler configTypes line = some (c, message))
include hc

lemma eventSettings_of_false (ha : (run (Sys.exec faults) (c.updateConfig message) h).1 = false) :
    eventSettings faults configTypes line h = h.settings := by
  have hcarries := (carries_configType faults c message h).2
  rw [ha] at hcarries
  exact (processLine_of_some faults hc h).1.trans hcarries

lemma eventSettings_of_true (ha : (run (Sys.exec faults) (c.updateConfig message) h).1 = true) :
    ∃ cmd, readCommand c.kind message = some cmd ∧
      view (eventSettings faults configTypes line h) = cmd.apply (view h.settings) := by
  have hcarries := (carries_configType faults c message h).2
  rw [ha, if_pos rfl, ← (processLine_of_some faults hc h).1] at hcarries
  exact hcarries

end Lines

/-- At most one entry differs, and that one belongs to the type the line is addressed to. -/
def Confined (line : Text) (v v' : View) : Prop :=
  ∃ e : Entry, (∀ e' : Entry, e' ≠ e → e'.Same v v') ∧
    (¬ e.Same v v' → ∃ k : Kind, AddressedTo k line ∧ e.BelongsTo k)

lemma confined_refl (line : Text) (v : View) : Confined line v v :=
  ⟨.flag 0, fun e _ => e.same_refl v, fun hne => absurd (Entry.same_refl v _) hne⟩

lemma confined_event (faults : Faults N) (configTypes : List ConfigType) (h : Host N) (line : Text) :
    Confined line (view h.settings) (view (eventSettings faults configTypes line h)) := by
  cases hc : handler configTypes line with
  | none =>
    rw [eventSettings_of_none faults hc]
    exact confined_refl line _
  | some x =>
    obtain ⟨c, message⟩ := x
    cases ha : (run (Sys.exec faults) (c.updateConfig message) h).1 with
    | false =>
      rw [eventSettings_of_false faults hc ha]
      exact confined_refl line _
    | true =>
      obtain ⟨cmd, hcmd, hv⟩ := eventSettings_of_true faults hc ha
      have haddressed : AddressedTo c.kind line := (handler_kind hc c.kind).mpr rfl
      rw [hv]
      exact ⟨cmd.entry, fun e he => cmd.same_apply _ he, fun _ => ⟨c.kind, haddressed, entry_of_readCommand hcmd⟩⟩

theorem event_line_atomic (faults : Faults N) (configTypes : List ConfigType) (h : Host N) (line : Text) :
    Confined line (view h.settings) (view (eventSettings faults configTypes line h)) ∧
    (splitFirst ':' line = none → eventSettings faults configTypes line h = h.settings) ∧
    ((∀ c ∈ configTypes, ¬ AddressedTo c.kind line) → eventSettings faults configTypes line h = h.settings) ∧
    ∀ c message, handler configTypes line = some (c, message) → AddressedTo c.kind line ∧
      ((run (Sys.exec faults) (c.updateConfig message) h).1 = false →
        eventSettings faults configTypes line h = h.settings) ∧
      ((run (Sys.exec faults) (c.updateConfig message) h).1 = true →
        ∃ cmd, readCommand c.kind message = some cmd ∧
          cmd.Achieved (view (eventSettings faults configTypes line h))) := by
  refine ⟨confined_event faults configTypes h line, ?_, ?_, ?_⟩
  · intro hcolon
    apply eventSettings_of_none
    rw [handler, hcolon]
    rfl
  · intro hunknown
    exact eventSettings_of_none faults (handler_eq_none hunknown)
  · intro c message hc
    refine ⟨(handler_kind hc c.kind).mpr rfl, eventSettings_of_false faults hc, ?_⟩
    intro ha
    obtain ⟨cmd, hcmd, hv⟩ := eventSettings_of_true faults hc ha
    rw [hv]
    exact ⟨cmd, hcmd, cmd.achieved_apply _⟩

end PacketFilter.Config
