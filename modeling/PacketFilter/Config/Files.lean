import PacketFilter.Config.Streams

/-! What a configuration file amounts to: the flag it sets, and then the calls that its lines make. -/

namespace PacketFilter.Config

open Library Library.Programs Library.Scanning Kernel Prog

variable {N : ℕ}

def effective (lines : List Text) : List Text := lines.filter (!Loader.skipped ·)

def DisabledFirst (lines : List Text) : Prop := (effective lines).head? = some DISABLED

def EnabledFirst (lines : List Text) : Prop := ∃ line ∈ (effective lines).head?, line ≠ DISABLED

instance (lines : List Text) : Decidable (DisabledFirst lines) := inferInstanceAs (Decidable (_ = _))

instance (lines : List Text) : Decidable (EnabledFirst lines) := inferInstanceAs (Decidable (∃ line ∈ _, _))

def callOf : SysProg Bool → Option Sys
  | .ret _ => none
  | .call op _ => some op

namespace Loader

variable (ld : Loader)

def lineCall (line : Text) : Option Sys :=
  if skipped line ∨ line = ENABLED ∨ line = DISABLED then none else callOf (ld.updateConfig (ld.commandLine line))

def flag (lines : List Text) : Bool :=
  match (effective lines).head? with
  | none => ld.enabledWhenEmpty
  | some line => line ≠ DISABLED

def flagProg (on : Bool) : SysProg Bool := if on then ld.enable else ld.disable

def OneCalls : Prop := ∀ message, OneCall ld.kind (ld.updateConfig message)

end Loader

section Acts

variable (faults : Faults N)

def Host.core (h : Host N) : Settings N × ℕ := (h.settings, h.calls)

@[simp] lemma Host.core_fst (h : Host N) : h.core.1 = h.settings := rfl

def Sys.answer (op : Sys) (x : Settings N × ℕ) : Except Errno Unit := (op.exec faults ⟨x.1, x.2, []⟩).1

def Sys.act (x : Settings N × ℕ) (op : Sys) : Settings N × ℕ := (op.exec faults ⟨x.1, x.2, []⟩).2.core

def Done : List Sys → Settings N × ℕ → Prop
  | [], _ => True
  | op :: ops, x => op.answer faults x = .ok () ∧ Done ops (op.act faults x)

variable {faults}

lemma exec_mk {op : Sys} (hop : ∀ note, op ≠ .report note) (s : Settings N) (c : ℕ) (j : List Note) :
    op.exec faults ⟨s, c, j⟩ =
      if op.fd < 0 then (.error .EBADF, ⟨s, c + 1, j⟩)
      else if faults c s op then (.error .ENOMEM, ⟨s, c + 1, j⟩)
      else
        match op.apply s with
        | .error e => (.error e, ⟨s, c + 1, j⟩)
        | .ok t => (.ok (), ⟨t, c + 1, j⟩) :=
  exec_of_ne_report hop

lemma exec_eq (op : Sys) (h : Host N) :
    (op.exec faults h).1 = op.answer faults h.core ∧ (op.exec faults h).2.core = op.act faults h.core := by
  obtain ⟨s, c, j⟩ := h
  by_cases hop : ∃ note, op = .report note
  · obtain ⟨note, rfl⟩ := hop
    exact ⟨rfl, rfl⟩
  · have hr (note : Note) : op ≠ .report note := fun hn => hop ⟨note, hn⟩
    have he : op.answer faults (Host.core ⟨s, c, j⟩) = (op.exec faults ⟨s, c, []⟩).1 := rfl
    have ha : op.act faults (Host.core ⟨s, c, j⟩) = (op.exec faults ⟨s, c, []⟩).2.core := rfl
    rw [he, ha, exec_mk hr, exec_mk hr]
    split_ifs
    · exact ⟨rfl, rfl⟩
    · exact ⟨rfl, rfl⟩
    · cases op.apply s <;> exact ⟨rfl, rfl⟩

lemma OneCall.core_run {k : Kind} {p : SysProg Bool} (hp : OneCall k p) (h : Host N) :
    (run (Sys.exec faults) p h).2.core = (callOf p).toList.foldl (Sys.act faults) h.core := by
  obtain ⟨b, rfl⟩ | ⟨op, f, _, rfl⟩ := hp
  · rfl
  · exact (exec_eq op h).2

lemma OneCall.done {k : Kind} {p : SysProg Bool} (hp : OneCall k p) {h : Host N}
    (ha : ∀ x ∈ answers (Sys.exec faults) p h, x.2 = .ok ()) : Done faults (callOf p).toList h.core := by
  obtain ⟨b, rfl⟩ | ⟨op, f, _, rfl⟩ := hp
  · trivial
  · refine ⟨?_, trivial⟩
    rw [← (exec_eq op h).1]
    exact ha ⟨op, _⟩ List.mem_cons_self

lemma done_append {ops ops' : List Sys} {x : Settings N × ℕ} :
    Done faults (ops ++ ops') x ↔ Done faults ops x ∧ Done faults ops' (ops.foldl (Sys.act faults) x) := by
  induction ops generalizing x with
  | nil => simp [Done]
  | cons op ops ih => simp only [List.cons_append, Done, ih, List.foldl_cons, and_assoc]

end Acts

namespace Loader

section Loading

variable {faults : Faults N} {ld : Loader} (hld : ld.OneCalls)
include hld

lemma core_applyLine {line : Text} (hs : skipped line = false) (h : Host N) :
    (run (Sys.exec faults) (ld.applyLine line) h).2.core =
      (ld.lineCall line).toList.foldl (Sys.act faults) h.core := by
  by_cases hl : line = ENABLED ∨ line = DISABLED
  · simp only [applyLine, lineCall, hl, or_true, if_true]
    rfl
  · simp only [applyLine, lineCall, hs, hl, Bool.false_eq_true, or_self, if_false]
    rw [← (hld (ld.commandLine line)).core_run, run_bind]
    rfl

lemma core_loadRest (lines : List Text) (h : Host N) :
    (run (Sys.exec faults) (ld.loadLines false lines) h).2.core =
      (lines.filterMap ld.lineCall).foldl (Sys.act faults) h.core := by
  induction lines generalizing h with
  | nil => rfl
  | cons line rest ih =>
    cases hs : skipped line with
    | true =>
      have hn : ld.lineCall line = none := by simp [lineCall, hs]
      simp only [loadLines, hs, if_true, ih, List.filterMap_cons, hn]
    | false =>
      simp only [loadLines, hs, Bool.false_eq_true, if_false, run_bind, ih, core_applyLine hld hs]
      cases hc : ld.lineCall line <;> simp [hc]

lemma done_applyLine {line : Text} (hs : skipped line = false) {h : Host N}
    (ha : ∀ x ∈ answers (Sys.exec faults) (ld.applyLine line) h, x.2 = .ok ()) :
    Done faults (ld.lineCall line).toList h.core := by
  by_cases hl : line = ENABLED ∨ line = DISABLED
  · simp only [lineCall, hl, or_true, if_true]
    trivial
  · simp only [lineCall, hs, hl, Bool.false_eq_true, or_self, if_false]
    apply (hld (ld.commandLine line)).done
    intro x hx
    rw [applyLine, if_neg hl, answers_bind] at ha
    exact ha x (List.mem_append_left _ hx)

lemma done_loadRest {lines : List Text} {h : Host N}
    (ha : ∀ x ∈ answers (Sys.exec faults) (ld.loadLines false lines) h, x.2 = .ok ()) :
    Done faults (lines.filterMap ld.lineCall) h.core := by
  induction lines generalizing h with
  | nil => trivial
  | cons line rest ih =>
    cases hs : skipped line with
    | true =>
      have hn : ld.lineCall line = none := by simp [lineCall, hs]
      simp only [loadLines, hs, if_true] at ha
      simpa only [List.filterMap_cons, hn] using ih ha
    | false =>
      simp only [loadLines, hs, Bool.false_eq_true, if_false, answers_bind, List.mem_append] at ha
      have h1 := done_applyLine hld hs (fun x hx => ha x (Or.inl hx))
      have h2 := ih (fun x hx => ha x (Or.inr hx))
      rw [core_applyLine hld hs] at h2
      have hd := done_append.mpr ⟨h1, h2⟩
      cases hc : ld.lineCall line <;> simpa [hc] using hd

omit hld

lemma flag_skipped {line : Text} (hs : skipped line = true) (rest : List Text) :
    ld.flag (line :: rest) = ld.flag rest := by
  have he : effective (line :: rest) = effective rest := by simp [effective, hs]
  rw [flag, flag, he]

lemma flag_line {line : Text} (hs : skipped line = false) (rest : List Text) :
    ld.flag (line :: rest) = decide (line ≠ DISABLED) := by
  have he : effective (line :: rest) = line :: effective rest := by simp [effective, hs]
  rw [flag, he]
  rfl

end Loading

section Flags

variable (faults : Faults N) (flagCall : Bool → Sys)

def loading (on : Bool) (calls : List Sys) (x : Settings N × ℕ) : Settings N × ℕ :=
  if on ∧ (flagCall on).answer faults x = .ok () then calls.foldl (Sys.act faults) ((flagCall on).act faults x)
  else (flagCall on).act faults x

lemma loading_nil (on : Bool) (x : Settings N × ℕ) :
    loading faults flagCall on [] x = (flagCall on).act faults x := ite_self _

lemma loading_false (calls : List Sys) (x : Settings N × ℕ) :
    loading faults flagCall false calls x = (flagCall false).act faults x := by
  simp [loading]

variable {flagCall} {ld : Loader} (hflag : ∀ on, ld.flagProg on = do return updated (← sys (flagCall on)))
include hflag

lemma run_setFlag (on : Bool) (h : Host N) :
    (run (Sys.exec faults) (ld.setFlag on) h).1 = updated ((flagCall on).answer faults h.core) ∧
      (run (Sys.exec faults) (ld.setFlag on) h).2.core = (flagCall on).act faults h.core := by
  have hp : ld.setFlag on = do
      let answer ← ld.flagProg on
      let _ ← sys (.report (.flag ld.kind on answer))
      return answer := by cases on <;> rfl
  have ha : ((flagCall on).exec faults h).1 = (flagCall on).answer faults h.core := (exec_eq _ h).1
  have hc : ((flagCall on).exec faults h).2.core = (flagCall on).act faults h.core := (exec_eq _ h).2
  rw [hp, hflag on, ← ha, ← hc]
  exact ⟨rfl, rfl⟩

lemma core_loadLines (hld : ld.OneCalls) (lines : List Text) (h : Host N) :
    (run (Sys.exec faults) (ld.loadLines true lines) h).2.core =
      loading faults flagCall (ld.flag lines) (lines.filterMap ld.lineCall) h.core := by
  induction lines with
  | nil =>
    rw [List.filterMap_nil, loading_nil]
    exact (run_setFlag faults hflag ld.enabledWhenEmpty h).2
  | cons line rest ih =>
    cases hs : skipped line with
    | true =>
      have hn : ld.lineCall line = none := by simp [lineCall, hs]
      rw [flag_skipped hs, List.filterMap_cons_none hn, ← ih, loadLines, if_pos hs]
    | false =>
      rw [flag_line hs, loadLines, if_neg (by simp [hs])]
      by_cases hd : line = DISABLED
      · simp only [hd, if_true, ne_eq, not_true_eq_false, decide_false, loading_false]
        exact (run_setFlag faults hflag false h).2
      · obtain ⟨ha, hc⟩ := run_setFlag faults hflag true h
        simp only [hd, if_false, ne_eq, not_false_eq_true, decide_true, loading, true_and, run_bind, ha]
        cases hr : (flagCall true).answer faults h.core with
        | error e => simpa [updated] using hc
        | ok u =>
          have hl : (run (Sys.exec faults) (ld.loadLines false (line :: rest))
              (run (Sys.exec faults) (ld.setFlag true) h).2).2.core = _ := core_loadRest hld (line :: rest) _
          rw [hc, loadLines, if_neg (by simp [hs])] at hl
          simpa [updated] using hl

variable {faults}

lemma answer_setFlag {on : Bool} {h : Host N}
    (ha : ∀ x ∈ answers (Sys.exec faults) (ld.setFlag on) h, x.2 = .ok ()) :
    (flagCall on).answer faults h.core = .ok () := by
  have hp : ld.setFlag on = do
      let answer ← ld.flagProg on
      let _ ← sys (.report (.flag ld.kind on answer))
      return answer := by cases on <;> rfl
  rw [hp, hflag on] at ha
  rw [← (exec_eq (flagCall on) h).1]
  exact ha ⟨flagCall on, _⟩ List.mem_cons_self

lemma done_loadLines (hld : ld.OneCalls) {lines : List Text} {h : Host N}
    (ha : ∀ x ∈ answers (Sys.exec faults) (ld.loadLines true lines) h, x.2 = .ok ()) :
    (flagCall (ld.flag lines)).answer faults h.core = .ok () ∧
      (ld.flag lines → Done faults (lines.filterMap ld.lineCall) ((flagCall true).act faults h.core)) := by
  induction lines with
  | nil => exact ⟨answer_setFlag hflag ha, fun _ => trivial⟩
  | cons line rest ih =>
    cases hs : skipped line with
    | true =>
      have hn : ld.lineCall line = none := by simp [lineCall, hs]
      rw [loadLines, if_pos hs] at ha
      rw [flag_skipped hs, List.filterMap_cons_none hn]
      exact ih ha
    | false =>
      rw [loadLines, if_neg (by simp [hs])] at ha
      rw [flag_line hs]
      by_cases hd : line = DISABLED
      · simp only [hd, if_true] at ha
        simp only [hd, ne_eq, not_true_eq_false, decide_false, Bool.false_eq_true, false_implies, and_true]
        exact answer_setFlag hflag ha
      · simp only [hd, if_false, answers_bind, List.mem_append] at ha
        have hok := answer_setFlag hflag (fun x hx => ha x (Or.inl hx))
        obtain ⟨hr, hc⟩ := run_setFlag faults hflag true h
        have hrest : ∀ x ∈ answers (Sys.exec faults) (ld.loadLines false (line :: rest))
            (run (Sys.exec faults) (ld.setFlag true) h).2, x.2 = .ok () := by
          intro x hx
          apply ha x
          rw [loadLines, if_neg (by simp [hs])] at hx
          simpa [hr, hok, updated, answers_bind] using Or.inr hx
        simp only [hd, ne_eq, not_false_eq_true, decide_true, true_implies]
        exact ⟨hok, hc ▸ done_loadRest hld hrest⟩

end Flags

end Loader

def SubnetList.loader : SubnetList → ListFds → Loader
  | .blacklist => Blacklist.loader
  | .whitelist => Whitelist.loader

def SubnetList.loadConfig : SubnetList → MapFdManager → Option Text → SysProg (Bool × ListFds)
  | .blacklist => Blacklist.loadConfig
  | .whitelist => Whitelist.loadConfig

section Lists

variable (l : SubnetList) (fds : ListFds)

def listFlag (on : Bool) : Sys := .updateConfigState fds.mapFdConfigState l.configKey (if on then 1 else 0)

lemma flagProg_list (on : Bool) : (l.loader fds).flagProg on = do return updated (← sys (listFlag l fds on)) := by
  cases l <;> cases on <;> rfl

lemma oneCalls_list : (l.loader fds).OneCalls := by
  intro message
  cases l <;> exact oneCall_subnets _ fds message

lemma inetPton_hash (s : Text) : inetPton ('#' :: s) = none := by
  have hc : cString ('#' :: s) = '#' :: cString s := rfl
  have hs : Quad.step ⟨0, false, 0, []⟩ '#' = none := rfl
  rw [inetPton, hc, List.foldlM_cons, hs]
  rfl

lemma parseSubnet_hash (s : Text) : parseSubnet ('#' :: s) = none := by
  rw [parseSubnet]
  cases hs : splitFirst '/' ('#' :: s) with
  | none => rfl
  | some x =>
    have hx : ∃ r, x.1 = '#' :: r := by
      unfold splitFirst at hs
      split_ifs at hs
      cases hs
      exact ⟨_, rfl⟩
    obtain ⟨r, hr⟩ := hx
    simp only [hr, inetPton_hash]

lemma parseSubnet_skipped {line : Text} (h : Loader.skipped line ∨ line = ENABLED ∨ line = DISABLED) :
    parseSubnet (word 0 line) = none := by
  rcases h with h | rfl | rfl
  · cases line with
    | nil => rfl
    | cons c s =>
      obtain rfl : c = '#' := by simpa [Loader.skipped] using h
      exact parseSubnet_hash _
  · decide
  · decide

lemma callOf_addLine (line : Text) : callOf (l.updateConfig fds (addPrefix line)) =
    (parseSubnet (word 0 line)).map (Sys.updateSubnets l fds.mapFdSubnets · 1) := by
  have h1 : (token (addPrefix line)).1 = ADD := rfl
  have h2 : (token (token (addPrefix line)).2).1 = word 0 line := rfl
  have h3 : ¬ ADD = ENABLED := by decide
  have h4 : ¬ ADD = DISABLED := by decide
  simp only [SubnetList.updateConfig, h1, h2, h3, h4, if_false, if_true]
  split_ifs with he
  · rw [he]
    rfl
  · cases parseSubnet (word 0 line) <;> rfl

lemma lineCall_list (line : Text) : (l.loader fds).lineCall line =
    (parseSubnet (word 0 line)).map (Sys.updateSubnets l fds.mapFdSubnets · 1) := by
  rw [Loader.lineCall]
  split_ifs with hs
  · rw [parseSubnet_skipped hs]
    rfl
  · cases l <;> exact callOf_addLine _ fds line

def keysOf (lines : List Text) : List IPSubnet := lines.filterMap (fun line => parseSubnet (word 0 line))

lemma filterMap_lineCall_list (lines : List Text) : lines.filterMap (l.loader fds).lineCall =
    (keysOf lines).map (Sys.updateSubnets l fds.mapFdSubnets · 1) := by
  rw [keysOf, List.map_filterMap]
  exact congrArg (lines.filterMap ·) (funext (lineCall_list l fds))

variable {l fds} {faults : Faults N}

lemma apply_of_answer {op : Sys} (hop : ∀ note, op ≠ .report note) {x : Settings N × ℕ}
    (h : op.answer faults x = .ok ()) : op.apply x.1 = .ok (op.act faults x).1 := by
  obtain ⟨_, ⟨_, hs⟩ | ⟨e, he, _⟩⟩ := exec_cases faults op hop ⟨x.1, x.2, []⟩
  · exact hs
  · cases h.symm.trans he

lemma view_act_key {fd : ℤ} {key : IPSubnet} {net : Network 32} (hn : network? key = some net) {x : Settings N × ℕ}
    (h : (Sys.updateSubnets l fd key 1).answer faults x = .ok ()) :
    view ((Sys.updateSubnets l fd key 1).act faults x).1 = (Command.addNet l net).apply (view x.1) :=
  view_addNet hn _ _ (apply_of_answer (by simp) h)

open Classical in
noncomputable def View.withNets (v : View) (l : SubnetList) (nets : Set (Network 32)) : View :=
  { v with nets := fun l' n => if l' = l ∧ n ∈ nets then some 1 else v.nets l' n }

lemma view_foldl_keys {fd : ℤ} {keys : List IPSubnet} (hk : ∀ key ∈ keys, ∃ net, network? key = some net)
    {x : Settings N × ℕ} (h : Done faults (keys.map (Sys.updateSubnets l fd · 1)) x) :
    view ((keys.map (Sys.updateSubnets l fd · 1)).foldl (Sys.act faults) x).1 =
      (view x.1).withNets l {net | ∃ key ∈ keys, network? key = some net} := by
  induction keys generalizing x with
  | nil => simp [View.withNets]
  | cons key keys ih =>
    obtain ⟨net, hn⟩ := hk key List.mem_cons_self
    obtain ⟨ha, hd⟩ := h
    rw [List.map_cons, List.foldl_cons, ih (fun k hm => hk k (List.mem_cons_of_mem _ hm)) hd, view_act_key hn ha]
    simp only [View.withNets, Command.apply, View.mk.injEq, true_and, and_true]
    funext l' n
    by_cases hl : l' = l
    · by_cases hm : ∃ k ∈ keys, network? k = some n
      · simp [hl, hm]
      · by_cases he : n = net
        · simp [hl, he, hn]
        · have hne : network? key ≠ some n := fun h => he (Option.some.inj (h.symm.trans hn))
          simp [hl, hm, he, hne]
    · simp [hl]

def SubnetList.mapName : SubnetList → MapName
  | .blacklist => .blacklistSubnetsMap
  | .whitelist => .whitelistSubnetsMap

lemma loadConfig_some {mgr : MapFdManager} (hs : 0 ≤ mgr.fd l.mapName) (hc : 0 ≤ mgr.fd .configStateMap)
    (text : Text) : l.loadConfig mgr (some text) = do
      return (← (l.loader ⟨mgr.fd l.mapName, mgr.fd .configStateMap⟩).loadLines true (getlines text),
        ⟨mgr.fd l.mapName, mgr.fd .configStateMap⟩) := by
  have h1 : mgr.getMapFdByName l.mapName = mgr.fd l.mapName := if_neg (not_lt.mpr hs)
  have h2 : mgr.getMapFdByName .configStateMap = mgr.fd .configStateMap := if_neg (not_lt.mpr hc)
  have h3 : ¬ mgr.fd l.mapName < 0 := not_lt.mpr hs
  have h4 : ¬ mgr.fd .configStateMap < 0 := not_lt.mpr hc
  cases l with
  | blacklist =>
    simp only [SubnetList.mapName] at h1 h3
    simp only [SubnetList.loadConfig, Blacklist.loadConfig, h1, h2, h3, h4, if_false]
    rfl
  | whitelist =>
    simp only [SubnetList.mapName] at h1 h3
    simp only [SubnetList.loadConfig, Whitelist.loadConfig, h1, h2, h3, h4, if_false]
    rfl

def listed (line : Text) : Option (Network 32) := (parseSubnet (token line).1).bind network?

def listedIn (lines : List Text) : Set (Network 32) := {net | ∃ line ∈ lines, listed line = some net}

lemma keysOf_networks (lines : List Text) :
    {net | ∃ key ∈ keysOf lines, network? key = some net} = listedIn (effective lines) := by
  ext net
  simp only [keysOf, List.mem_filterMap, listedIn, listed, effective, List.mem_filter, Set.mem_ofPred_eq]
  constructor
  · rintro ⟨key, ⟨line, hl, hk⟩, hn⟩
    have hs : Loader.skipped line = false := by
      by_contra hs
      rw [parseSubnet_skipped (Or.inl (by simpa using hs))] at hk
      cases hk
    have hw : parseSubnet (token line).1 = some key := hk
    exact ⟨line, ⟨hl, by simp [hs]⟩, by rw [hw, Option.bind_some, hn]⟩
  · rintro ⟨line, ⟨hl, _⟩, hb⟩
    obtain ⟨key, hk, hn⟩ := Option.bind_eq_some_iff.mp hb
    exact ⟨key, ⟨line, hl, hk⟩, hn⟩

lemma view_act_flag (on : Bool) {x : Settings N × ℕ} (h : (listFlag l fds on).answer faults x = .ok ()) :
    view ((listFlag l fds on).act faults x).1 = (Command.setFlag (.subnets l) on).apply (view x.1) := by
  have hk : l.configKey.toNat = (Kind.subnets l).slot := by cases l <;> rfl
  exact view_setFlag hk _ _ (apply_of_answer (by simp) h)

lemma view_loadLines {lines : List Text} {h : Host N}
    (ha : ∀ x ∈ answers (Sys.exec faults) ((l.loader fds).loadLines true lines) h, x.2 = .ok ()) :
    view (run (Sys.exec faults) ((l.loader fds).loadLines true lines) h).2.settings =
      if (l.loader fds).flag lines then
        ((Command.setFlag (.subnets l) true).apply (view h.settings)).withNets l (listedIn (effective lines))
      else (Command.setFlag (.subnets l) false).apply (view h.settings) := by
  have hc : (run (Sys.exec faults) ((l.loader fds).loadLines true lines) h).2.settings = _ :=
    congrArg Prod.fst (Loader.core_loadLines faults (flagProg_list l fds) (oneCalls_list l fds) lines h)
  obtain ⟨hok, hd⟩ := Loader.done_loadLines (flagProg_list l fds) (oneCalls_list l fds) ha
  rw [hc, Loader.loading]
  cases hf : (l.loader fds).flag lines with
  | false =>
    rw [hf] at hok
    simpa using view_act_flag false hok
  | true =>
    rw [hf] at hok
    have hd := hd hf
    rw [filterMap_lineCall_list] at hd
    have hk : ∀ key ∈ keysOf lines, ∃ net, network? key = some net := by
      intro key hm
      obtain ⟨line, _, hp⟩ := List.mem_filterMap.mp hm
      exact parseSubnet_network hp
    rw [if_pos ⟨rfl, hok⟩, if_pos rfl, filterMap_lineCall_list, view_foldl_keys hk hd, view_act_flag true hok,
      keysOf_networks, Host.core_fst]

lemma flag_of_disabledFirst {lines : List Text} (h : DisabledFirst lines) : (l.loader fds).flag lines = false := by
  rw [Loader.flag, h]
  simp

lemma flag_of_enabledFirst {lines : List Text} (h : EnabledFirst lines) : (l.loader fds).flag lines = true := by
  obtain ⟨line, hm, hd⟩ := h
  rw [Loader.flag, Option.mem_def.mp hm]
  simpa using hd

lemma flag_of_effective_nil {lines : List Text} (h : effective lines = []) :
    (l.loader fds).flag lines = decide (l = .blacklist) := by
  rw [Loader.flag, h]
  cases l <;> rfl

lemma flag_congr {lines lines' : List Text} (h : (effective lines').head? = (effective lines).head?) :
    (l.loader fds).flag lines' = (l.loader fds).flag lines := by
  rw [Loader.flag, h, Loader.flag]

lemma listedIn_congr {lines lines' : List Text} (hh : lines'.head? = lines.head?)
    (ht : ∀ line, line ∈ lines'.tail ↔ line ∈ lines.tail) : listedIn lines' = listedIn lines := by
  have hm (line : Text) : line ∈ lines' ↔ line ∈ lines := by
    cases lines' with
    | nil =>
      cases lines with
      | nil => rfl
      | cons a as => cases hh
    | cons b bs =>
      cases lines with
      | nil => cases hh
      | cons a as =>
        cases hh
        simpa using or_congr_right (ht line)
  simp only [listedIn, hm]

end Lists

section Meaning

variable {l : SubnetList} {faults : Faults N} {mgr : MapFdManager} {h : Host N}

def loaded (faults : Faults N) (l : SubnetList) (mgr : MapFdManager) (text : Text) (h : Host N) : Settings N :=
  (run (Sys.exec faults) (l.loadConfig mgr (some text)) h).2.settings

def Succeeds (faults : Faults N) (l : SubnetList) (mgr : MapFdManager) (text : Text) (h : Host N) : Prop :=
  0 ≤ mgr.fd l.mapName ∧ 0 ≤ mgr.fd .configStateMap ∧
    ∀ x ∈ answers (Sys.exec faults) (l.loadConfig mgr (some text)) h, x.2 = .ok ()

lemma view_loaded {text : Text} (hs : Succeeds faults l mgr text h) :
    view (loaded faults l mgr text h) =
      if (l.loader ⟨mgr.fd l.mapName, mgr.fd .configStateMap⟩).flag (getlines text) then
        ((Command.setFlag (.subnets l) true).apply (view h.settings)).withNets l
          (listedIn (effective (getlines text)))
      else (Command.setFlag (.subnets l) false).apply (view h.settings) := by
  obtain ⟨h1, h2, ha⟩ := hs
  rw [loadConfig_some h1 h2, answers_bind] at ha
  have hv := view_loadLines (fun x hx => ha x (List.mem_append_left _ hx))
  rw [loaded, loadConfig_some h1 h2, run_bind]
  exact hv

theorem list_file_meaning (l : SubnetList) (faults : Faults N) (mgr : MapFdManager) (text : Text) (h : Host N)
    (hempty : ∀ net, (subnets h.settings l).get? net = none) (hok : Succeeds faults l mgr text h) :
    (DisabledFirst (getlines text) →
      (loaded faults l mgr text h).configState (Kind.subnets l).slot = 0 ∧
      ∀ net, (subnets (loaded faults l mgr text h) l).get? net = none) ∧
    (EnabledFirst (getlines text) →
      (loaded faults l mgr text h).configState (Kind.subnets l).slot = 1 ∧
      ∀ net, ((subnets (loaded faults l mgr text h) l).get? net).isSome ↔
        ∃ line ∈ effective (getlines text), listed line = some net) ∧
    (effective (getlines text) = [] →
      (loaded faults l mgr text h).configState (Kind.subnets l).slot = if l = .blacklist then 1 else 0) ∧
    ∀ text', Succeeds faults l mgr text' h →
      (effective (getlines text')).head? = (effective (getlines text)).head? →
      (∀ line, line ∈ (effective (getlines text')).tail ↔ line ∈ (effective (getlines text)).tail) →
      (loaded faults l mgr text' h).configState = (loaded faults l mgr text h).configState ∧
      ∀ net, (subnets (loaded faults l mgr text' h) l).get? net =
        (subnets (loaded faults l mgr text h) l).get? net := by
  have hv := view_loaded hok
  have hf : (loaded faults l mgr text h).configState = _ := congrArg View.configState hv
  have hn (net : Network 32) : (subnets (loaded faults l mgr text h) l).get? net = View.nets _ l net :=
    congrFun (congrFun (congrArg View.nets hv) l) net
  have hn0 (net : Network 32) : (view h.settings).nets l net = none := hempty net
  refine ⟨?_, ?_, ?_, ?_⟩
  · intro hd
    simp only [hf, hn, flag_of_disabledFirst hd]
    exact ⟨Function.update_self _ _ _, hn0⟩
  · intro he
    simp only [hf, hn, flag_of_enabledFirst he, if_true]
    refine ⟨Function.update_self _ _ _, ?_⟩
    intro net
    by_cases hm : net ∈ listedIn (effective (getlines text))
    · simp only [View.withNets, hm, and_self, if_true, Option.isSome_some, true_iff]
      exact hm
    · simp only [View.withNets, hm, and_false, if_false, Command.apply, hn0, Option.isSome_none, false_iff,
        Bool.false_eq_true]
      exact hm
  · intro he
    cases l <;> simp [hf, flag_of_effective_nil he, View.withNets, Command.apply]
  · intro text' hok' hh ht
    have hv' := view_loaded hok'
    rw [flag_congr hh, listedIn_congr hh ht, ← hv] at hv'
    exact ⟨congrArg View.configState hv', fun net => congrFun (congrFun (congrArg View.nets hv') l) net⟩

def twoSubnets : Text := "# lab\n10.0.0.1/8\nten/8\n10.0.0.2/8 x".toList

theorem list_file_meaning_two_subnets :
    (loaded (fun _ _ _ => false) .blacklist ⟨fun _ => 3⟩ twoSubnets
      (⟨.zeroed, 0, []⟩ : Host 4)).configState 0 = 1 ∧
    ((subnets (loaded (fun _ _ _ => false) .blacklist ⟨fun _ => 3⟩ twoSubnets (⟨.zeroed, 0, []⟩ : Host 4))
      .blacklist).get? (.of 8 (by omega) 0x0A000000#32)).isSome := by
  have hm := (list_file_meaning (N := 4) .blacklist (fun _ _ _ => false) ⟨fun _ => 3⟩ twoSubnets ⟨.zeroed, 0, []⟩
    (fun _ => rfl) ⟨by decide, by decide, by decide +kernel⟩).2.1 (by decide +kernel)
  exact ⟨hm.1, (hm.2 _).mpr ⟨"10.0.0.1/8".toList, by decide +kernel, by decide +kernel⟩⟩

end Meaning

end PacketFilter.Config
