import PacketFilter.Config.Commands

/-! The settings are at every moment what the accepted commands reported so far make of empty maps. -/

namespace PacketFilter.Config

open Library Library.Programs Library.Scanning Library.History Kernel Prog

variable {N : ℕ}

namespace Command

def onFlag (kind : Kind) : Command → Option Bool
  | .setFlag k on => if k = kind then some on else none
  | _ => none

def onNet (l : SubnetList) (net : Network 32) : Command → Option Bool
  | .addNet l' n => if l' = l ∧ n = net then some true else none
  | .removeNet l' n => if l' = l ∧ n = net then some false else none
  | _ => none

def onLimit (a : Addr) : Command → Option (Option IpRateLimit)
  | .addLimit ip config => if ip = a then some (some config) else none
  | .removeLimit ip => if ip = a then some none else none
  | _ => none

end Command

def Note.command : Note → Option Command
  | .flag kind on true => some (.setFlag kind on)
  | .message kind text true => readCommand kind text
  | _ => none

def accepted (journal : List Note) : List Command := journal.filterMap Note.command

@[simp] lemma accepted_append (j k : List Note) : accepted (j ++ k) = accepted j ++ accepted k :=
  List.filterMap_append

def View.zeroed : View := ⟨fun _ => 0, fun _ _ => none, fun _ => none⟩

lemma view_zeroed : view (Settings.zeroed : Settings N) = .zeroed := by
  simp only [view, View.zeroed, View.mk.injEq]
  refine ⟨rfl, ?_, rfl⟩
  funext l
  cases l <;> rfl

def replay (cs : List Command) : View := cs.foldl Command.apply .zeroed

@[simp] lemma replay_concat (cs : List Command) (c : Command) : replay (cs ++ [c]) = c.apply (replay cs) := by
  simp [replay]

def flagOf (journal : List Note) (kind : Kind) : Bool :=
  (latest? (Command.onFlag kind) (accepted journal)).getD false

def networks (journal : List Note) (l : SubnetList) : Set (Network 32) :=
  {net | latest? (Command.onNet l net) (accepted journal) = some true}

def limitOf (journal : List Note) (a : Addr) : Option IpRateLimit :=
  (latest? (Command.onLimit a) (accepted journal)).join

lemma slot_injective : Function.Injective Kind.slot := by
  intro j k h
  cases j with
  | ratelimit =>
    cases k with
    | ratelimit => rfl
    | subnets l => cases l <;> simp [Kind.slot] at h
  | subnets l =>
    cases k with
    | ratelimit => cases l <;> simp [Kind.slot] at h
    | subnets l' => cases l <;> cases l' <;> simp [Kind.slot] at h ⊢

lemma replay_flag (cs : List Command) (kind : Kind) :
    (replay cs).configState kind.slot = if (latest? (Command.onFlag kind) cs).getD false then 1 else 0 := by
  induction cs using List.reverseRecOn with
  | nil => rfl
  | append_singleton cs c ih =>
    rw [replay_concat, latest?_concat]
    cases c with
    | setFlag k on =>
      by_cases hk : k = kind
      · subst k
        simp [Command.apply, Command.onFlag]
      · have hs : kind.slot ≠ k.slot := fun h => hk (slot_injective h).symm
        simpa [Command.apply, Command.onFlag, hk, Function.update_of_ne hs] using ih
    | _ => exact ih

lemma replay_nets (cs : List Command) (l : SubnetList) (net : Network 32) :
    (replay cs).nets l net = if latest? (Command.onNet l net) cs = some true then some 1 else none := by
  induction cs using List.reverseRecOn with
  | nil => rfl
  | append_singleton cs c ih =>
    rw [replay_concat, latest?_concat]
    cases c with
    | addNet l' n =>
      by_cases hn : l' = l ∧ n = net
      · simp [Command.apply, Command.onNet, hn]
      · have hn' : ¬ (l = l' ∧ net = n) := fun h => hn ⟨h.1.symm, h.2.symm⟩
        simpa [Command.apply, Command.onNet, hn, hn'] using ih
    | removeNet l' n =>
      by_cases hn : l' = l ∧ n = net
      · simp [Command.apply, Command.onNet, hn]
      · have hn' : ¬ (l = l' ∧ net = n) := fun h => hn ⟨h.1.symm, h.2.symm⟩
        simpa [Command.apply, Command.onNet, hn, hn'] using ih
    | _ => exact ih

lemma limits_foldl (cs : List Command) (v : View) (a : Addr) :
    (cs.foldl Command.apply v).limits a = (latest? (Command.onLimit a) cs).getD (v.limits a) := by
  induction cs using List.reverseRecOn with
  | nil => rfl
  | append_singleton cs c ih =>
    rw [List.foldl_append, latest?_concat]
    cases c with
    | addLimit ip config =>
      by_cases ha : ip = a
      · simp [Command.apply, Command.onLimit, ha]
      · simpa [Command.apply, Command.onLimit, ha, Ne.symm ha] using ih
    | removeLimit ip =>
      by_cases ha : ip = a
      · simp [Command.apply, Command.onLimit, ha]
      · simpa [Command.apply, Command.onLimit, ha, Ne.symm ha] using ih
    | _ => exact ih

lemma replay_limits (cs : List Command) (a : Addr) :
    (replay cs).limits a = (latest? (Command.onLimit a) cs).join := by
  rw [replay, limits_foldl]
  cases latest? (Command.onLimit a) cs <;> rfl

/-- The settings are those that the accepted commands of the journal lead to. -/
def Host.Agrees (h : Host N) : Prop := view h.settings = replay (accepted h.journal)

section Programs

variable (faults : Faults N)

def Keeps {α : Type} (p : SysProg α) : Prop := ∀ h : Host N, h.Agrees → (run (Sys.exec faults) p h).2.Agrees

lemma keeps_ret {α : Type} (a : α) : Keeps faults (return a) := fun _ hh => hh

lemma keeps_bind {α β : Type} {p : SysProg α} {f : α → SysProg β} (hp : Keeps faults p)
    (hf : ∀ a, Keeps faults (f a)) : Keeps faults (p >>= f) := by
  intro h hh
  rw [run_bind]
  exact hf _ _ (hp h hh)

lemma keeps_reported {β : Type} {p : SysProg Bool} {c : Option Command} (hp : Carries faults p c)
    (note : Bool → Note) (ht : (note true).command = c) (hf : (note false).command = none) (b : Bool → β) :
    Keeps faults (do
      let answer ← p
      let _ ← sys (.report (note answer))
      return b answer) := by
  intro h hh
  obtain ⟨hj, hc⟩ := hp h
  rw [run_bind]
  simp only [Host.Agrees, sys, perform_bind, run_call, pure_eq, run_ret, Sys.exec, accepted_append, hj]
  cases ha : (run (Sys.exec faults) p h).1 with
  | false =>
    rw [ha] at hc
    simpa [accepted, hf] using (congrArg view hc).trans hh
  | true =>
    rw [ha] at hc
    obtain ⟨cmd, rfl, hv⟩ := hc
    have hn : accepted [note true] = [cmd] := by simp [accepted, ht]
    rw [hn, replay_concat, ← hh]
    exact hv

structure Loader.Sound (ld : Loader) : Prop where
  enable : Carries faults ld.enable (some (.setFlag ld.kind true))
  disable : Carries faults ld.disable (some (.setFlag ld.kind false))
  updateConfig : ∀ message, Carries faults (ld.updateConfig message) (readCommand ld.kind message)

variable {faults}

lemma Loader.Sound.keeps_setFlag {ld : Loader} (hs : ld.Sound faults) (on : Bool) :
    Keeps faults (ld.setFlag on) := by
  cases on with
  | true => exact keeps_reported faults hs.enable (.flag ld.kind true) rfl rfl id
  | false => exact keeps_reported faults hs.disable (.flag ld.kind false) rfl rfl id

lemma Loader.Sound.keeps_applyLine {ld : Loader} (hs : ld.Sound faults) (line : Text) :
    Keeps faults (ld.applyLine line) := by
  unfold Loader.applyLine
  split_ifs
  · exact keeps_ret faults ()
  · exact keeps_reported faults (hs.updateConfig _) (.message ld.kind (ld.commandLine line)) rfl rfl
      (fun _ => ())

lemma Loader.Sound.keeps_loadLines {ld : Loader} (hs : ld.Sound faults) (first : Bool) (lines : List Text) :
    Keeps faults (ld.loadLines first lines) := by
  induction lines generalizing first with
  | nil =>
    cases first with
    | true => exact hs.keeps_setFlag _
    | false => exact keeps_ret faults true
  | cons line rest ih =>
    have ha : Keeps faults (ld.applyLine line >>= fun _ => ld.loadLines false rest) :=
      keeps_bind faults (hs.keeps_applyLine line) (fun _ => ih false)
    cases first with
    | true =>
      rw [Loader.loadLines]
      split_ifs
      · exact ih true
      · exact hs.keeps_setFlag false
      · apply keeps_bind faults (hs.keeps_setFlag true)
        intro answer
        cases answer with
        | true => exact ha
        | false => exact keeps_ret faults false
    | false =>
      rw [Loader.loadLines]
      split_ifs
      · exact ih false
      · exact ha

variable (faults)

lemma Blacklist.sound (fds : ListFds) : (Blacklist.loader fds).Sound faults where
  enable := carries_setState faults (.subnets .blacklist) true ConfigKey.BLACKLIST rfl _
  disable := carries_setState faults (.subnets .blacklist) false ConfigKey.BLACKLIST rfl _
  updateConfig := carries_subnets faults .blacklist fds

lemma Whitelist.sound (fds : ListFds) : (Whitelist.loader fds).Sound faults where
  enable := carries_setState faults (.subnets .whitelist) true ConfigKey.WHITELIST rfl _
  disable := carries_setState faults (.subnets .whitelist) false ConfigKey.WHITELIST rfl _
  updateConfig := carries_subnets faults .whitelist fds

lemma RateLimit.sound (fds : RateFds) : (RateLimit.loader fds).Sound faults where
  enable := carries_setState faults .ratelimit true ConfigKey.RATELIMIT rfl _
  disable := carries_setState faults .ratelimit false ConfigKey.RATELIMIT rfl _
  updateConfig := carries_ratelimit faults fds

lemma Blacklist.keeps_loadConfig (mgr : MapFdManager) (file : Option Text) :
    Keeps faults (Blacklist.loadConfig mgr file) := by
  obtain ⟨r, hr⟩ | ⟨fds, text, hr⟩ := Blacklist.loadConfig_cases mgr file
  · rw [hr]
    exact keeps_ret faults r
  · rw [hr]
    exact keeps_bind faults ((Blacklist.sound faults fds).keeps_loadLines true _) (fun _ => keeps_ret faults _)

lemma Whitelist.keeps_loadConfig (mgr : MapFdManager) (file : Option Text) :
    Keeps faults (Whitelist.loadConfig mgr file) := by
  obtain ⟨r, hr⟩ | ⟨fds, text, hr⟩ := Whitelist.loadConfig_cases mgr file
  · rw [hr]
    exact keeps_ret faults r
  · rw [hr]
    exact keeps_bind faults ((Whitelist.sound faults fds).keeps_loadLines true _) (fun _ => keeps_ret faults _)

lemma RateLimit.keeps_loadConfig (mgr : MapFdManager) (file : Option Text) :
    Keeps faults (RateLimit.loadConfig mgr file) := by
  obtain ⟨r, hr⟩ | ⟨fds, text, hr⟩ := RateLimit.loadConfig_cases mgr file
  · rw [hr]
    exact keeps_ret faults r
  · rw [hr]
    exact keeps_bind faults ((RateLimit.sound faults fds).keeps_loadLines true _) (fun _ => keeps_ret faults _)

lemma keeps_loadAllConfigs (mgr : MapFdManager) (files : Files) : Keeps faults (loadAllConfigs mgr files) := by
  apply keeps_bind faults (Blacklist.keeps_loadConfig faults mgr files.blacklist)
  intro blacklist
  apply keeps_bind faults (Whitelist.keeps_loadConfig faults mgr files.whitelist)
  intro whitelist
  apply keeps_bind faults (RateLimit.keeps_loadConfig faults mgr files.ratelimit)
  intro ratelimit
  exact keeps_ret faults _

lemma keeps_processEventMessage (configTypes : List ConfigType) (line : Text) :
    Keeps faults (processEventMessage configTypes line) := by
  unfold processEventMessage
  split
  · exact keeps_ret faults ()
  · rename_i configTypeStr message _
    split
    · exact keeps_ret faults ()
    · rename_i config _
      exact keeps_reported faults (carries_configType faults config _) (.message config.kind (trim message)) rfl
        rfl (fun _ => ())

end Programs

end PacketFilter.Config
