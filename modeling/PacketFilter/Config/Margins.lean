import PacketFilter.Config.Files

/-! Two configuration files that differ only in the blanks around their lines. -/

namespace PacketFilter.Config

open Library Library.Programs Library.Scanning Kernel Prog

variable {N : ℕ}

def SameText (lines lines' : List Text) : Prop := List.Forall₂ (fun a b => strip a = strip b) lines lines'

lemma word_eq_of_strip {a b : Text} (h : strip a = strip b) (n : ℕ) : word n a = word n b := by
  rw [← word_strip n a, h, word_strip]

lemma keysOf_congr {lines lines' : List Text} (h : SameText lines lines') : keysOf lines = keysOf lines' := by
  induction h with
  | nil => rfl
  | cons hab _ ih =>
    simp only [keysOf, List.filterMap_cons] at ih ⊢
    rw [word_eq_of_strip hab, ih]

section Rates

def HasCommand (line : Text) : Prop := ADD ++ [' '] <+: line ∨ REMOVE ++ [' '] <+: line

instance (line : Text) : Decidable (HasCommand line) := inferInstanceAs (Decidable (_ ∨ _))

/-- Lines whose command the loader overlooks for a blank before it. -/
def Unheard (line : Text) : Prop := (∃ c ∈ line.head?, isMargin c) ∧ HasCommand (strip line)

instance (line : Text) : Decidable (Unheard line) := inferInstanceAs (Decidable ((∃ c ∈ _, _) ∧ _))

def heard (lines : List Text) : List Command :=
  (lines.filter (¬ Unheard ·)).filterMap (fun line => readRateCommand (RateLimit.commandLine (strip line)))

lemma commandLine_eq (line : Text) :
    RateLimit.commandLine line = if HasCommand line then line else addPrefix line := by
  have hb : ((ADD ++ [' ']).isPrefixOf line || (REMOVE ++ [' ']).isPrefixOf line) = true ↔ HasCommand line := by
    rw [Bool.or_eq_true, List.isPrefixOf_iff_prefix, List.isPrefixOf_iff_prefix, HasCommand]
  simp only [RateLimit.commandLine, hb]

lemma readRateCommand_congr {m m' : Text} (h : ∀ n, word n m = word n m') :
    readRateCommand m = readRateCommand m' := by
  have h0 : (token m).1 = (token m').1 := h 0
  have h1 : (token (token m).2).1 = (token (token m').2).1 := h 1
  have h2 : extractUint32 (token (token m).2).2 = extractUint32 (token (token m').2).2 := by
    have hw : (token (token (token m).2).2).1 = (token (token (token m').2).2).1 := h 2
    rw [extractUint32_rest, extractUint32_rest, hw]
  simp only [readRateCommand, h0, h1, h2]

lemma word_addPrefix (line : Text) (n : ℕ) : word (n + 1) (addPrefix line) = word n line := by
  cases n <;> rfl

lemma readRateCommand_addPrefix_none {line : Text} (h : inetPton (word 0 line) = none) :
    readRateCommand (addPrefix line) = none := by
  have h1 : (token (addPrefix line)).1 = ADD := rfl
  have h2 : (token (token (addPrefix line)).2).1 = word 0 line := rfl
  have h3 : ¬ ADD = ENABLED := by decide
  have h4 : ¬ ADD = DISABLED := by decide
  simp only [readRateCommand, h1, h2, h3, h4, if_false, h]

lemma HasCommand.cases {line : Text} (h : HasCommand line) : word 0 line = ADD ∨ word 0 line = REMOVE := by
  obtain ⟨r, rfl⟩ | ⟨r, rfl⟩ := h
  · exact Or.inl rfl
  · exact Or.inr rfl

lemma HasCommand.inetPton_word {line : Text} (h : HasCommand line) : inetPton (word 0 line) = none := by
  rcases h.cases with h | h <;> rw [h] <;> rfl

lemma HasCommand.head {line : Text} (h : HasCommand line) : ∀ c ∈ line.head?, ¬ isMargin c := by
  obtain ⟨r, rfl⟩ | ⟨r, rfl⟩ := h <;> rintro c ⟨rfl⟩ <;> decide

lemma readRateCommand_of_isPrefix {s : Text} (h : s <+: ADD ++ [' '] ∨ s <+: REMOVE ++ [' ']) :
    readRateCommand s = none := by
  rw [← List.mem_inits, ← List.mem_inits, ← List.mem_append] at h
  have hall : ∀ s ∈ (ADD ++ [' ']).inits ++ (REMOVE ++ [' ']).inits, (readRateCommand s).isNone := by decide
  exact Option.isNone_iff_eq_none.mp (hall s h)

lemma HasCommand.strip_none {line : Text} (h : HasCommand line) (hs : ¬ HasCommand (strip line)) :
    readRateCommand line = none := by
  have hp : strip line <+: line := strip_isPrefix h.head
  have hw (n : ℕ) : word n line = word n (strip line) := (word_strip n line).symm
  rw [readRateCommand_congr hw]
  apply readRateCommand_of_isPrefix
  rcases h with h | h
  · exact Or.inl ((List.prefix_or_prefix_of_prefix hp h).resolve_right (fun hc => hs (Or.inl hc)))
  · exact Or.inr ((List.prefix_or_prefix_of_prefix hp h).resolve_right (fun hc => hs (Or.inr hc)))

lemma readRateCommand_commandLine (line : Text) :
    readRateCommand (RateLimit.commandLine line) =
      if Unheard line then none else readRateCommand (RateLimit.commandLine (strip line)) := by
  have hw (n : ℕ) : word n (strip line) = word n line := word_strip n line
  rw [commandLine_eq, commandLine_eq]
  by_cases hc : HasCommand line
  · have hu : ¬ Unheard line := fun ⟨⟨c, hm, hb⟩, _⟩ => hc.head c hm hb
    rw [if_pos hc, if_neg hu]
    by_cases hs : HasCommand (strip line)
    · rw [if_pos hs, readRateCommand_congr hw]
    · rw [if_neg hs, hc.strip_none hs, readRateCommand_addPrefix_none (hw 0 ▸ hc.inetPton_word)]
  · rw [if_neg hc]
    by_cases hs : HasCommand (strip line)
    · have hu : Unheard line := by
        refine ⟨?_, hs⟩
        by_contra hn
        have hp : strip line <+: line := strip_isPrefix (fun c hm hb => hn ⟨c, hm, hb⟩)
        exact hc (hs.imp (·.trans hp) (·.trans hp))
      rw [if_pos hu, readRateCommand_addPrefix_none (hw 0 ▸ hs.inetPton_word)]
    · have hu : ¬ Unheard line := fun h => hs h.2
      rw [if_neg hu, if_neg hs]
      apply readRateCommand_congr
      intro n
      cases n with
      | zero => rfl
      | succ n => rw [word_addPrefix, word_addPrefix, hw]

lemma heard_eq (lines : List Text) :
    heard lines = lines.filterMap (fun line => readRateCommand (RateLimit.commandLine line)) := by
  rw [heard, List.filterMap_filter]
  apply List.filterMap_congr
  intro line _
  have hr := readRateCommand_commandLine line
  by_cases hu : Unheard line
  · simpa [hu] using hr.symm
  · simpa [hu] using hr.symm

def Command.IsLimit : Command → Prop
  | .addLimit _ _ | .removeLimit _ => True
  | _ => False

lemma word_commandLine (line : Text) :
    word 0 (RateLimit.commandLine line) = ADD ∨ word 0 (RateLimit.commandLine line) = REMOVE := by
  rw [commandLine_eq]
  split_ifs with hc
  · exact hc.cases
  · exact Or.inl rfl

lemma isLimit_of_read {line : Text} {c : Command} (h : readRateCommand (RateLimit.commandLine line) = some c) :
    c.IsLimit := by
  have hw : (token (RateLimit.commandLine line)).1 = ADD ∨ (token (RateLimit.commandLine line)).1 = REMOVE :=
    word_commandLine line
  have h1 : (token (RateLimit.commandLine line)).1 ≠ ENABLED := by rcases hw with hw | hw <;> rw [hw] <;> decide
  have h2 : (token (RateLimit.commandLine line)).1 ≠ DISABLED := by rcases hw with hw | hw <;> rw [hw] <;> decide
  simp only [readRateCommand, if_neg h1, if_neg h2] at h
  split at h
  · cases h
  · split_ifs at h
    · split at h
      · cases h
      · split_ifs at h
        cases h
        trivial
    · cases h
      trivial

lemma isLimit_of_mem_heard {lines : List Text} {c : Command} (h : c ∈ heard lines) : c.IsLimit := by
  rw [heard_eq] at h
  obtain ⟨line, _, hr⟩ := List.mem_filterMap.mp h
  exact isLimit_of_read hr

def Command.call (fds : RateFds) : Command → Option Sys
  | .setFlag _ on => some (.updateConfigState fds.mapFdConfigState ConfigKey.RATELIMIT (if on then 1 else 0))
  | .addLimit ip config => some (.updateRateLimits fds.mapFdRateLimits ip config)
  | .removeLimit ip => some (.deleteRateLimits fds.mapFdRateLimits ip)
  | .addNet _ _ | .removeNet _ _ => none

lemma Command.IsLimit.call {c : Command} (h : c.IsLimit) (fds : RateFds) :
    ∃ op, c.call fds = some op ∧ op.mapKind = some .ratelimit ∧ op.fd = fds.mapFdRateLimits := by
  cases c with
  | addLimit ip config => exact ⟨_, rfl, rfl, rfl⟩
  | removeLimit ip => exact ⟨_, rfl, rfl, rfl⟩
  | setFlag k on => exact h.elim
  | addNet l net => exact h.elim
  | removeNet l net => exact h.elim

lemma Command.IsLimit.call_inj {c d : Command} (hc : c.IsLimit) (hd : d.IsLimit) {fds : RateFds}
    (h : c.call fds = d.call fds) : c = d := by
  cases c <;> cases d <;> first | exact hc.elim | exact hd.elim | (cases h; try rfl)

lemma calls_injective {cs ds : List Command} (hc : ∀ c ∈ cs, c.IsLimit) (hd : ∀ d ∈ ds, d.IsLimit) {fds : RateFds}
    (h : cs.filterMap (Command.call fds) = ds.filterMap (Command.call fds)) : cs = ds := by
  induction cs generalizing ds with
  | nil =>
    cases ds with
    | nil => rfl
    | cons d ds =>
      obtain ⟨op, ho, _⟩ := (hd d List.mem_cons_self).call fds
      rw [List.filterMap_cons_some ho] at h
      cases h
  | cons c cs ih =>
    obtain ⟨op, ho, _⟩ := (hc c List.mem_cons_self).call fds
    rw [List.filterMap_cons_some ho] at h
    cases ds with
    | nil => cases h
    | cons d ds =>
      obtain ⟨op', ho', _⟩ := (hd d List.mem_cons_self).call fds
      rw [List.filterMap_cons_some ho'] at h
      obtain ⟨he, hr⟩ := List.cons.inj h
      have hcd : c = d := (hc c List.mem_cons_self).call_inj (hd d List.mem_cons_self) (ho.trans (he ▸ ho'.symm))
      rw [hcd, ih (fun c hm => hc c (List.mem_cons_of_mem _ hm)) (fun d hm => hd d (List.mem_cons_of_mem _ hm)) hr]

lemma callOf_ratelimit (fds : RateFds) (message : Text) :
    callOf (RateLimit.updateConfig fds message) = (readRateCommand message).bind (Command.call fds) := by
  have hreads := RateLimit.reads fds message
  generalize readRateCommand message = c, RateLimit.updateConfig fds message = p at hreads ⊢
  cases hreads with
  | rejected => rfl
  | flag on => rfl
  | add ip hp =>
    rw [RateLimit.addRateLimit, if_neg hp]
    rfl
  | remove ip => rfl

lemma readRateCommand_skipped {line : Text} (h : Loader.skipped line ∨ line = ENABLED ∨ line = DISABLED) :
    readRateCommand (RateLimit.commandLine line) = none := by
  rcases h with h | rfl | rfl
  · cases line with
    | nil => rfl
    | cons c s =>
      obtain rfl : c = '#' := by simpa [Loader.skipped] using h
      have hc : ¬ HasCommand ('#' :: s) := by
        rintro (⟨r, hr⟩ | ⟨r, hr⟩) <;> exact absurd (List.cons.inj hr).1 (by decide)
      rw [commandLine_eq, if_neg hc]
      exact readRateCommand_addPrefix_none (inetPton_hash _)
  · exact readRateCommand_addPrefix_none rfl
  · exact readRateCommand_addPrefix_none rfl

lemma filterMap_lineCall_rates (fds : RateFds) (lines : List Text) :
    lines.filterMap (RateLimit.loader fds).lineCall = (heard lines).filterMap (Command.call fds) := by
  rw [heard_eq, List.filterMap_filterMap]
  congr 1
  funext line
  rw [Loader.lineCall]
  split_ifs with hs
  · rw [readRateCommand_skipped hs]
    rfl
  · exact callOf_ratelimit fds _

end Rates

namespace Kind

def mapName : Kind → MapName
  | .subnets l => l.mapName
  | .ratelimit => .ipRateLimitsMap

def configKey : Kind → BitVec 32
  | .subnets l => l.configKey
  | .ratelimit => ConfigKey.RATELIMIT

def loader (own state : ℤ) : Kind → Loader
  | .subnets l => l.loader ⟨own, state⟩
  | .ratelimit => RateLimit.loader ⟨own, state⟩

def flagCall (state : ℤ) (k : Kind) (on : Bool) : Sys := .updateConfigState state k.configKey (if on then 1 else 0)

def loadedFrom (faults : Faults N) (mgr : MapFdManager) (text : Text) (h : Host N) : Kind → Settings N
  | .subnets l => loaded faults l mgr text h
  | .ratelimit => (run (Sys.exec faults) (RateLimit.loadConfig mgr (some text)) h).2.settings

def SameEntries (s s' : Settings N) : Kind → Prop
  | .subnets l => ∀ net, (Config.subnets s l).get? net = (Config.subnets s' l).get? net
  | .ratelimit => ∀ a, s.ipRateLimits.get? a = s'.ipRateLimits.get? a

variable {own state : ℤ} (k : Kind)

lemma toNat_configKey : k.configKey.toNat = k.slot := by
  cases k with
  | ratelimit => rfl
  | subnets l => cases l <;> rfl

lemma flagProg_loader (own state : ℤ) (on : Bool) :
    (k.loader own state).flagProg on = do return updated (← sys (k.flagCall state on)) := by
  cases k with
  | ratelimit => cases on <;> rfl
  | subnets l => exact flagProg_list l ⟨own, state⟩ on

lemma oneCalls_loader : (k.loader own state).OneCalls := by
  cases k with
  | subnets l => exact oneCalls_list l ⟨own, state⟩
  | ratelimit => exact oneCall_ratelimit ⟨own, state⟩

lemma loadedFrom_eq {faults : Faults N} {mgr : MapFdManager} (hown : 0 ≤ mgr.fd k.mapName)
    (hstate : 0 ≤ mgr.fd .configStateMap) (text : Text) (h : Host N) :
    k.loadedFrom faults mgr text h =
      (Loader.loading faults (k.flagCall (mgr.fd .configStateMap))
        ((k.loader (mgr.fd k.mapName) (mgr.fd .configStateMap)).flag (getlines text))
        ((getlines text).filterMap (k.loader (mgr.fd k.mapName) (mgr.fd .configStateMap)).lineCall) h.core).1 := by
  rw [← Loader.core_loadLines faults (k.flagProg_loader _ _) k.oneCalls_loader]
  cases k with
  | subnets l =>
    rw [loadedFrom, loaded, loadConfig_some hown hstate, run_bind]
    rfl
  | ratelimit =>
    have h1 : mgr.getMapFdByName .ipRateLimitsMap = mgr.fd .ipRateLimitsMap := if_neg (not_lt.mpr hown)
    have h2 : mgr.getMapFdByName .configStateMap = mgr.fd .configStateMap := if_neg (not_lt.mpr hstate)
    have h3 : ¬ mgr.fd .ipRateLimitsMap < 0 := not_lt.mpr hown
    have h4 : ¬ mgr.fd .configStateMap < 0 := not_lt.mpr hstate
    simp only [loadedFrom, RateLimit.loadConfig, h1, h2, h3, h4, if_false, run_bind]
    rfl

lemma run_guarded {α : Type} {faults : Faults N} {c d : Prop} [Decidable c] [Decidable d] {x y : α}
    {p q : SysProg α} (hp : p = if c then return x else if d then return y else q) (hcd : c ∨ d) (h : Host N) :
    (run (Sys.exec faults) p h).2 = h := by
  subst hp
  by_cases hc : c
  · rw [if_pos hc]
    rfl
  · rw [if_neg hc, if_pos (hcd.resolve_left hc)]
    rfl

lemma loadedFrom_of_neg {faults : Faults N} {mgr : MapFdManager}
    (hneg : mgr.fd k.mapName < 0 ∨ mgr.fd .configStateMap < 0) (text : Text) (h : Host N) :
    k.loadedFrom faults mgr text h = h.settings := by
  have hg (name : MapName) : mgr.getMapFdByName name < 0 ↔ mgr.fd name < 0 := by
    rw [MapFdManager.getMapFdByName]
    split_ifs with hn <;> simp [hn]
  rw [← hg, ← hg] at hneg
  cases k with
  | ratelimit => exact congrArg Host.settings (run_guarded rfl hneg h)
  | subnets l =>
    cases l with
    | blacklist => exact congrArg Host.settings (run_guarded rfl hneg h)
    | whitelist => exact congrArg Host.settings (run_guarded rfl hneg h)

def switchedOn (lines : List Text) : Kind → Prop
  | .subnets .blacklist => ¬ DisabledFirst lines
  | .subnets .whitelist | .ratelimit => EnabledFirst lines

lemma loader_flag (own state : ℤ) (lines : List Text) :
    (k.loader own state).flag lines = true ↔ k.switchedOn lines := by
  rw [Loader.flag]
  cases k with
  | ratelimit =>
    cases he : (effective lines).head? <;> simp [switchedOn, EnabledFirst, he, loader, RateLimit.loader]
  | subnets l =>
    cases l with
    | blacklist =>
      cases he : (effective lines).head? <;>
        simp [switchedOn, DisabledFirst, he, loader, SubnetList.loader, Blacklist.loader]
    | whitelist =>
      cases he : (effective lines).head? <;>
        simp [switchedOn, EnabledFirst, he, loader, SubnetList.loader, Whitelist.loader]

end Kind

/-- From every state, whatever calls fail, both files lead to the same flags and the same entries. -/
def LoadsAlike (N : ℕ) (k : Kind) (f g : Text) : Prop :=
  ∀ (faults : Faults N) (mgr : MapFdManager) (h : Host N),
    (k.loadedFrom faults mgr f h).configState = (k.loadedFrom faults mgr g h).configState ∧
    k.SameEntries (k.loadedFrom faults mgr f h) (k.loadedFrom faults mgr g h)

section Alike

variable {k : Kind} {f g : Text}

lemma loadsAlike_of_calls (hon : k.switchedOn (getlines f) ↔ k.switchedOn (getlines g))
    (hcalls : k.switchedOn (getlines f) → ∀ own state, (getlines f).filterMap (k.loader own state).lineCall =
      (getlines g).filterMap (k.loader own state).lineCall) : LoadsAlike N k f g := by
  intro faults mgr h
  have he : k.loadedFrom faults mgr f h = k.loadedFrom faults mgr g h := by
    by_cases hneg : mgr.fd k.mapName < 0 ∨ mgr.fd .configStateMap < 0
    · rw [k.loadedFrom_of_neg hneg, k.loadedFrom_of_neg hneg]
    · simp only [not_or, not_lt] at hneg
      rw [k.loadedFrom_eq hneg.1 hneg.2, k.loadedFrom_eq hneg.1 hneg.2]
      have hf := k.loader_flag (mgr.fd k.mapName) (mgr.fd .configStateMap) (getlines f)
      have hg := k.loader_flag (mgr.fd k.mapName) (mgr.fd .configStateMap) (getlines g)
      by_cases ho : k.switchedOn (getlines f)
      · rw [hf.mpr ho, hg.mpr (hon.mp ho), hcalls ho]
      · have hf' := (Bool.not_eq_true _).mp (mt hf.mp ho)
        have hg' := (Bool.not_eq_true _).mp (mt hg.mp (mt hon.mpr ho))
        rw [hf', hg', Loader.loading_false, Loader.loading_false]
  rw [he]
  refine ⟨rfl, ?_⟩
  cases k <;> exact fun _ => rfl

end Alike

section Single

open Classical in
/-- Every write of a flag succeeds, and of the other calls only those that `P` lets through. -/
noncomputable def allowing (P : ℕ → Sys → Prop) : Faults N := fun c _ op => decide (op.mapKind.isSome ∧ ¬ P c op)

variable {P : ℕ → Sys → Prop} {op : Sys} {s s' : Settings N}

lemma ne_report_of_mapKind (hk : op.mapKind.isSome) (note : Note) : op ≠ .report note := by
  rintro rfl
  cases hk

lemma act_flagCall {state : ℤ} (hs : 0 ≤ state) (k : Kind) (on : Bool) (s : Settings N) (c : ℕ) :
    (k.flagCall state on).answer (allowing P) (s, c) = .ok () ∧ (k.flagCall state on).act (allowing P) (s, c) =
      ({ s with configState := Function.update s.configState k.slot (if on then 1 else 0) }, c + 1) := by
  have hlt : k.configKey.toNat < 20 := k.toNat_configKey ▸ k.slot.isLt
  have hk : (⟨k.configKey.toNat, hlt⟩ : Fin 20) = k.slot := Fin.ext k.toNat_configKey
  have ha : (k.flagCall state on).apply s =
      .ok { s with configState := Function.update s.configState k.slot (if on then 1 else 0) } := by
    simp only [Kind.flagCall, Sys.apply, dif_pos hlt, hk]
  have hf : allowing P c s (k.flagCall state on) = false := by simp [allowing, Kind.flagCall, Sys.mapKind]
  have hfd : ¬ (k.flagCall state on).fd < 0 := not_lt.mpr hs
  rw [Sys.answer, Sys.act, exec_mk (by simp [Kind.flagCall]), if_neg hfd, if_neg (by simp [hf]), ha]
  exact ⟨rfl, rfl⟩

lemma act_refused (hk : op.mapKind.isSome) {c : ℕ} (hp : ¬ P c op) (s : Settings N) :
    op.act (allowing P) (s, c) = (s, c + 1) := by
  have hf : allowing P c s op = true := by simp [allowing, hk, hp]
  rw [Sys.act, exec_mk (ne_report_of_mapKind hk)]
  split_ifs <;> rfl

lemma act_allowed (hk : op.mapKind.isSome) (hfd : 0 ≤ op.fd) {c : ℕ} (hp : P c op) (ha : op.apply s = .ok s') :
    op.act (allowing P) (s, c) = (s', c + 1) := by
  have hf : allowing P c s op = false := by simp [allowing, hp]
  rw [Sys.act, exec_mk (ne_report_of_mapKind hk), if_neg (not_lt.mpr hfd), if_neg (by simp [hf]), ha]
  rfl

lemma foldl_refused {ops : List Sys} (hops : ∀ op ∈ ops, op.mapKind.isSome) {c : ℕ}
    (hp : ∀ d op, c ≤ d → ¬ P d op) (s : Settings N) : (ops.foldl (Sys.act (allowing P)) (s, c)).1 = s := by
  induction ops generalizing c with
  | nil => rfl
  | cons op ops ih =>
    rw [List.foldl_cons, act_refused (hops op List.mem_cons_self) (hp c op le_rfl)]
    exact ih (fun op hm => hops op (List.mem_cons_of_mem _ hm)) (fun d op hd => hp d op (by omega))

open Classical in
lemma foldl_single {ops : List Sys} (hops : ∀ op ∈ ops, op.mapKind.isSome) (hk : op.mapKind.isSome)
    (hfd : 0 ≤ op.fd) (ha : op.apply s = .ok s') (n c : ℕ) :
    (ops.foldl (Sys.act (allowing (fun d o => d = n ∧ o = op))) (s, c)).1 =
      if c ≤ n ∧ ops[n - c]? = some op then s' else s := by
  induction ops generalizing c with
  | nil => simp
  | cons o ops ih =>
    have hrest : ∀ op ∈ ops, op.mapKind.isSome := fun op hm => hops op (List.mem_cons_of_mem _ hm)
    rw [List.foldl_cons]
    by_cases hp : c = n ∧ o = op
    · obtain ⟨rfl, rfl⟩ := hp
      rw [act_allowed hk hfd ⟨rfl, rfl⟩ ha, foldl_refused hrest (fun d o hd h => by omega)]
      simp
    · rw [act_refused (hops o List.mem_cons_self) hp, ih hrest]
      rcases lt_trichotomy c n with hlt | rfl | hgt
      · obtain ⟨m, rfl⟩ : ∃ m, n = c + 1 + m := ⟨n - (c + 1), by omega⟩
        have h1 : c + 1 + m - (c + 1) = m := by omega
        have h2 : c + 1 + m - c = m + 1 := by omega
        simp [h1, h2, show c ≤ c + 1 + m by omega]
      · have ho : o ≠ op := fun h => hp ⟨rfl, h⟩
        simp [ho]
      · simp [show ¬ c ≤ n by omega, show ¬ c + 1 ≤ n by omega]

end Single

section Exact

lemma mem_calls {k : Kind} {own state : ℤ} {lines : List Text} {op : Sys}
    (h : op ∈ lines.filterMap (k.loader own state).lineCall) : op.mapKind = some k ∧ op.fd = own := by
  cases k with
  | subnets l =>
    rw [Kind.loader, filterMap_lineCall_list] at h
    obtain ⟨key, _, rfl⟩ := List.mem_map.mp h
    exact ⟨rfl, rfl⟩
  | ratelimit =>
    rw [Kind.loader, filterMap_lineCall_rates] at h
    obtain ⟨c, hc, ho⟩ := List.mem_filterMap.mp h
    obtain ⟨op', ho', hk, hfd⟩ := (isLimit_of_mem_heard hc).call ⟨own, state⟩
    cases ho.symm.trans ho'
    exact ⟨hk, hfd⟩

variable {f g : Text}

lemma configState_loading (k : Kind) (text : Text) (h : Host N) :
    (k.loadedFrom (allowing (fun _ _ => False)) ⟨fun _ => 0⟩ text h).configState k.slot =
      if (k.loader 0 0).flag (getlines text) then 1 else 0 := by
  have hk : ∀ op ∈ (getlines text).filterMap (k.loader 0 0).lineCall, op.mapKind.isSome := by
    intro op hm
    simp [(mem_calls hm).1]
  obtain ⟨ha, hs⟩ := act_flagCall (P := fun _ _ => False) (le_refl (0 : ℤ)) k
    ((k.loader 0 0).flag (getlines text)) h.settings h.calls
  rw [k.loadedFrom_eq le_rfl le_rfl, Loader.loading, Host.core, ha, hs]
  split_ifs <;> simp_all [foldl_refused hk]

lemma switchedOn_of_loadsAlike {k : Kind} (h : LoadsAlike N k f g) :
    k.switchedOn (getlines f) ↔ k.switchedOn (getlines g) := by
  have hc := congrFun (h (allowing (fun _ _ => False)) ⟨fun _ => 0⟩ ⟨.zeroed, 0, []⟩).1 k.slot
  rw [configState_loading, configState_loading] at hc
  rw [← k.loader_flag 0 0, ← k.loader_flag 0 0]
  cases hf : (k.loader 0 0).flag (getlines f) <;> cases hg : (k.loader 0 0).flag (getlines g) <;> simp_all

lemma exists_change {op : Sys} (hk : op.mapKind = some .ratelimit) :
    ∃ s s' : Settings (N + 1), (∀ i, s.configState i = 1) ∧ op.apply s = .ok s' ∧
      ¬ Kind.ratelimit.SameEntries s' s := by
  cases op with
  | updateConfigState fd key value => cases hk
  | updateSubnets l fd key value => cases hk
  | deleteSubnets l fd key => cases hk
  | report note => cases hk
  | updateRateLimits fd ip config =>
    obtain ⟨m, hm, hg⟩ : ∃ m : BoundedMap Addr IpRateLimit (N + 1), _ := BoundedMap.exists_update_empty ip config
    refine ⟨⟨fun _ => 1, .empty, .empty, .empty⟩, ⟨fun _ => 1, .empty, .empty, m⟩, fun _ => rfl, ?_, ?_⟩
    · simp only [Sys.apply, hm]
    · intro hs
      cases (hs ip).symm.trans hg
  | deleteRateLimits fd ip =>
    obtain ⟨m, hm, hg⟩ : ∃ m : BoundedMap Addr IpRateLimit (N + 1), _ := BoundedMap.exists_update_empty ip ⟨0, 0⟩
    refine ⟨⟨fun _ => 1, .empty, .empty, m⟩, ⟨fun _ => 1, .empty, .empty, m.erase ip⟩, fun _ => rfl, ?_, ?_⟩
    · simp only [Sys.apply, hg, Option.isSome_some, if_true]
    · intro hs
      have he := (hs ip).symm.trans (BoundedMap.get?_erase m ip ip)
      rw [if_pos rfl] at he
      cases hg.symm.trans he

open Classical in
lemma loadedFrom_single {k : Kind} {text : Text} (hon : k.switchedOn (getlines text)) {op : Sys}
    (hk : op.mapKind.isSome) (hfd : 0 ≤ op.fd) {s s' : Settings N} (hs : ∀ i, s.configState i = 1)
    (ha : op.apply s = .ok s') (n : ℕ) :
    k.loadedFrom (allowing (fun d o => d = n + 1 ∧ o = op)) ⟨fun _ => 0⟩ text ⟨s, 0, []⟩ =
      if ((getlines text).filterMap (k.loader 0 0).lineCall)[n]? = some op then s' else s := by
  have hops : ∀ op ∈ (getlines text).filterMap (k.loader 0 0).lineCall, op.mapKind.isSome := by
    intro op hm
    simp [(mem_calls hm).1]
  obtain ⟨hok, hact⟩ := act_flagCall (P := fun d o => d = n + 1 ∧ o = op) (le_refl (0 : ℤ)) k true s 0
  have hsame : { s with configState := Function.update s.configState k.slot (if true then 1 else 0) } = s := by
    have hu : Function.update s.configState k.slot 1 = s.configState := by
      rw [Function.update_eq_self_iff, hs]
    rw [if_pos rfl, hu]
  rw [k.loadedFrom_eq le_rfl le_rfl, (k.loader_flag 0 0 _).mpr hon, Loader.loading, Host.core, if_pos ⟨rfl, hok⟩,
    hact, hsame, foldl_single hops hk hfd ha]
  simp

lemma LoadsAlike.symm {k : Kind} (h : LoadsAlike N k f g) : LoadsAlike N k g f := by
  intro faults mgr h0
  obtain ⟨h1, h2⟩ := h faults mgr h0
  refine ⟨h1.symm, ?_⟩
  cases k <;> exact fun x => (h2 x).symm

lemma LoadsAlike.calls_get (h : LoadsAlike (N + 1) .ratelimit f g) (hf : EnabledFirst (getlines f))
    (hg : EnabledFirst (getlines g)) {n : ℕ} {op : Sys}
    (ho : ((getlines f).filterMap (Kind.ratelimit.loader 0 0).lineCall)[n]? = some op) :
    ((getlines g).filterMap (Kind.ratelimit.loader 0 0).lineCall)[n]? = some op := by
  obtain ⟨hk, hfd⟩ := mem_calls (List.mem_of_getElem? ho)
  obtain ⟨s, s', hs, ha, hne⟩ := exists_change (N := N) hk
  have hks : op.mapKind.isSome := by simp [hk]
  have hsame := (h (allowing (fun d o => d = n + 1 ∧ o = op)) ⟨fun _ => 0⟩ ⟨s, 0, []⟩).2
  rw [loadedFrom_single (k := .ratelimit) hf hks hfd.ge hs ha,
    loadedFrom_single (k := .ratelimit) hg hks hfd.ge hs ha, if_pos ho] at hsame
  by_contra hn
  rw [if_neg hn] at hsame
  exact hne hsame

lemma LoadsAlike.heard_eq (h : LoadsAlike (N + 1) .ratelimit f g) (hf : EnabledFirst (getlines f)) :
    heard (getlines f) = heard (getlines g) := by
  have hg : EnabledFirst (getlines g) := (switchedOn_of_loadsAlike h).mp hf
  have hc : (getlines f).filterMap (Kind.ratelimit.loader 0 0).lineCall =
      (getlines g).filterMap (Kind.ratelimit.loader 0 0).lineCall := by
    apply List.ext_getElem?
    intro n
    apply Option.ext
    intro op
    exact ⟨h.calls_get hf hg, h.symm.calls_get hg hf⟩
  rw [Kind.loader, filterMap_lineCall_rates, filterMap_lineCall_rates] at hc
  exact calls_injective (fun _ => isLimit_of_mem_heard) (fun _ => isLimit_of_mem_heard) hc

end Exact

theorem loads_alike_iff {f g : Text} (h : SameText (getlines f) (getlines g)) :
    (LoadsAlike (N + 1) (.subnets .blacklist) f g ↔
      (DisabledFirst (getlines f) ↔ DisabledFirst (getlines g))) ∧
    (LoadsAlike (N + 1) (.subnets .whitelist) f g ↔
      (EnabledFirst (getlines f) ↔ EnabledFirst (getlines g))) ∧
    (LoadsAlike (N + 1) .ratelimit f g ↔
      (EnabledFirst (getlines f) ↔ EnabledFirst (getlines g)) ∧
      (EnabledFirst (getlines f) → heard (getlines f) = heard (getlines g))) := by
  have hlist (l : SubnetList) (own state : ℤ) :
      (getlines f).filterMap ((Kind.subnets l).loader own state).lineCall =
      (getlines g).filterMap ((Kind.subnets l).loader own state).lineCall := by
    rw [Kind.loader, filterMap_lineCall_list, filterMap_lineCall_list, keysOf_congr h]
  refine ⟨?_, ?_, ?_⟩
  · constructor
    · exact fun ha => not_iff_not.mp (switchedOn_of_loadsAlike ha)
    · exact fun hd => loadsAlike_of_calls (not_congr hd) (fun _ => hlist .blacklist)
  · constructor
    · exact switchedOn_of_loadsAlike
    · exact fun he => loadsAlike_of_calls he (fun _ => hlist .whitelist)
  · constructor
    · exact fun ha => ⟨switchedOn_of_loadsAlike ha, ha.heard_eq⟩
    · rintro ⟨he, hh⟩
      refine loadsAlike_of_calls he ?_
      intro hon own state
      rw [Kind.loader, filterMap_lineCall_rates, filterMap_lineCall_rates, hh hon]

lemma sameText_singleton {a b : Text} (hf : getlines a = [a]) (hg : getlines b = [b]) (h : strip a = strip b) :
    SameText (getlines a) (getlines b) := by
  rw [hf, hg]
  exact .cons h .nil

theorem margins_matter :
    ¬ (∀ f g, SameText (getlines f) (getlines g) → LoadsAlike 1 (.subnets .blacklist) f g) ∧
    ¬ (∀ f g, SameText (getlines f) (getlines g) → LoadsAlike 1 (.subnets .whitelist) f g) ∧
    ¬ ∀ f g, SameText (getlines f) (getlines g) → LoadsAlike 1 .ratelimit f g := by
  refine ⟨?_, ?_, ?_⟩
  · intro h
    have hc := congrFun (h "disabled".toList "disabled\r".toList (sameText_singleton (by decide +kernel)
      (by decide +kernel) (by decide +kernel)) (fun _ _ _ => false) ⟨fun _ => 3⟩ ⟨.zeroed, 0, []⟩).1 0
    revert hc
    decide +kernel
  · intro h
    have hc := congrFun (h "disabled".toList "disabled\r".toList (sameText_singleton (by decide +kernel)
      (by decide +kernel) (by decide +kernel)) (fun _ _ _ => false) ⟨fun _ => 3⟩ ⟨.zeroed, 0, []⟩).1 2
    revert hc
    decide +kernel
  · intro h
    have hc := (h "add 10.0.0.1 5".toList " add 10.0.0.1 5".toList (sameText_singleton (by decide +kernel)
      (by decide +kernel) (by decide +kernel)) (fun _ _ _ => false) ⟨fun _ => 3⟩ ⟨.zeroed, 0, []⟩).2 0x0A000001#32
    revert hc
    decide +kernel

theorem loads_alike_trailing_return :
    LoadsAlike 1 (.subnets .blacklist) "10.0.0.1/8".toList "10.0.0.1/8\r".toList :=
  (loads_alike_iff (N := 0) (sameText_singleton (by decide +kernel) (by decide +kernel) (by decide +kernel))).1.mpr
    (by decide +kernel)

end PacketFilter.Config
