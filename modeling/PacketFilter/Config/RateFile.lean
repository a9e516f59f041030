import PacketFilter.Config.Margins
import PacketFilter.Engine.Effects

/-! What a rate limit file means: for each address the last of its lines that acts on it. -/

namespace PacketFilter.Config

open Library Library.Programs Library.Scanning Library.History Kernel Prog
open Engine (Smooth Performs performs_ret performs_sys smooth_bind apply_updateRateLimits_ne)

variable {N : ℕ}

def addition (ipStr rest : Text) : Option (Addr × Option (BitVec 32)) :=
  (inetPton ipStr).bind (fun ip => (extractUint32 rest).bind (fun p => if p = 0 then none else some (ip, some p)))

/-- The address a line acts on, with the packets per second it adds, or none when it removes. -/
def lineAction (line : Text) : Option (Addr × Option (BitVec 32)) :=
  if line = ENABLED ∨ line = DISABLED then none
  else if ADD ++ [' '] <+: line then addition (token (token line).2).1 (token (token line).2).2
  else if REMOVE ++ [' '] <+: line then (inetPton (token (token line).2).1).map (fun ip => (ip, none))
  else addition (token line).1 (token line).2

def ActsOn (a : Addr) (line : Text) : Prop := ∃ x ∈ lineAction line, x.1 = a

instance (a : Addr) (line : Text) : Decidable (ActsOn a line) :=
  inferInstanceAs (Decidable (∃ x ∈ lineAction line, _))

def limitCommand : Addr × Option (BitVec 32) → Command
  | (ip, some p) => .addLimit ip (rateLimitConfig p)
  | (ip, none) => .removeLimit ip

section Reading

lemma readRateCommand_add {message : Text} (h : (token message).1 = ADD) :
    readRateCommand message =
      (addition (token (token message).2).1 (token (token message).2).2).map limitCommand := by
  have h1 : ¬ ADD = ENABLED := by decide
  have h2 : ¬ ADD = DISABLED := by decide
  simp only [readRateCommand, addition, h, h1, h2, if_false, if_true]
  cases inetPton (token (token message).2).1 with
  | none => rfl
  | some ip =>
    cases extractUint32 (token (token message).2).2 with
    | none => rfl
    | some p =>
      simp only [Option.bind_some]
      split_ifs <;> rfl

lemma readRateCommand_remove {message : Text} (h : (token message).1 = REMOVE) :
    readRateCommand message =
      ((inetPton (token (token message).2).1).map (fun ip => (ip, none))).map limitCommand := by
  have h1 : ¬ REMOVE = ENABLED := by decide
  have h2 : ¬ REMOVE = DISABLED := by decide
  have h3 : ¬ REMOVE = ADD := by decide
  simp only [readRateCommand, h, h1, h2, h3, if_false, if_true]
  cases inetPton (token (token message).2).1 <;> rfl

lemma readRateCommand_line (line : Text) :
    readRateCommand (RateLimit.commandLine line) = (lineAction line).map limitCommand := by
  unfold lineAction
  split_ifs with hflag hadd hremove
  · exact readRateCommand_skipped (.inr hflag)
  · have htoken : (token line).1 = ADD := by
      obtain ⟨rest, rfl⟩ := hadd
      rfl
    have hcommand : HasCommand line := .inl hadd
    rw [commandLine_eq, if_pos hcommand, readRateCommand_add htoken]
  · have htoken : (token line).1 = REMOVE := by
      obtain ⟨rest, rfl⟩ := hremove
      rfl
    have hcommand : HasCommand line := .inr hremove
    rw [commandLine_eq, if_pos hcommand, readRateCommand_remove htoken]
  · have hnone : ¬ HasCommand line := not_or.mpr ⟨hadd, hremove⟩
    rw [commandLine_eq, if_neg hnone]
    exact readRateCommand_add rfl

end Reading

section Loading

variable {faults : Faults N} (fds : RateFds)

lemma performs_setState (on : Bool) (fd : ℤ) :
    Performs faults (setState fd ConfigKey.RATELIMIT (if on then 1 else 0)) [.setFlag .ratelimit on] :=
  performs_sys (by simp) (fun r => ⟨updated r, rfl⟩) (view_setFlag rfl) (fun s h => by cases h)

lemma performs_updateConfig (message : Text) :
    Performs faults (RateLimit.updateConfig fds message) (readRateCommand message).toList := by
  have hreads := RateLimit.reads fds message
  generalize readRateCommand message = c, RateLimit.updateConfig fds message = p at hreads ⊢
  cases hreads with
  | rejected => exact performs_ret false
  | flag on => exact performs_setState on _
  | add ip hp =>
    rw [RateLimit.addRateLimit, if_neg hp]
    exact performs_sys (by simp) (fun r => ⟨updated r, rfl⟩) view_addLimit
      (fun s h => absurd h apply_updateRateLimits_ne)
  | remove ip => exact performs_sys (by simp) (fun r => ⟨deleted r, rfl⟩) view_removeLimit view_removeLimit_absent

lemma performs_applyLine (line : Text) :
    Performs faults ((RateLimit.loader fds).applyLine line)
      (readRateCommand (RateLimit.commandLine line)).toList := by
  rw [Loader.applyLine]
  split_ifs with hflag
  · rw [readRateCommand_skipped (.inr hflag)]
    exact performs_ret ()
  · have hreport : ∀ answer, Performs faults (do
        let _ ← sys (.report (.message .ratelimit (RateLimit.commandLine line) answer))
        return ()) [] := fun _ _ _ => rfl
    rw [← List.append_nil (readRateCommand (RateLimit.commandLine line)).toList]
    exact (performs_updateConfig fds _).bind (fun _ => hreport _)

lemma performs_loadRest (lines : List Text) :
    Performs faults ((RateLimit.loader fds).loadLines false lines)
      (lines.filterMap (fun line => readRateCommand (RateLimit.commandLine line))) := by
  induction lines with
  | nil => exact performs_ret true
  | cons line rest ih =>
    rw [Loader.loadLines]
    split_ifs with hs
    · rw [List.filterMap_cons, readRateCommand_skipped (.inl hs)]
      exact ih
    · have happly : Performs faults ((RateLimit.loader fds).applyLine line >>= fun _ =>
          (RateLimit.loader fds).loadLines false rest)
            ((readRateCommand (RateLimit.commandLine line)).toList ++ _) :=
        (performs_applyLine fds line).bind (fun _ => ih)
      rw [List.filterMap_cons]
      cases hc : readRateCommand (RateLimit.commandLine line) with
      | none =>
        rw [hc] at happly
        exact happly
      | some c =>
        rw [hc] at happly
        exact happly

lemma setFlag_smooth {h : Host N} (hs : Smooth faults ((RateLimit.loader fds).setFlag true) h) :
    (run (Sys.exec faults) ((RateLimit.loader fds).setFlag true) h).1 = true ∧
      view (run (Sys.exec faults) ((RateLimit.loader fds).setFlag true) h).2.settings =
        (Command.setFlag .ratelimit true).apply (view h.settings) := by
  have hcall : Smooth faults (setState fds.mapFdConfigState ConfigKey.RATELIMIT 1) h := (smooth_bind hs).1
  refine ⟨?_, performs_setState true fds.mapFdConfigState h hcall⟩
  let op : Sys := .updateConfigState fds.mapFdConfigState ConfigKey.RATELIMIT 1
  have hanswer : (op.exec faults h).1 = .ok () ∨ (op.exec faults h).1 = .error .ENOENT :=
    hcall ⟨op, _⟩ List.mem_cons_self
  obtain ⟨-, ⟨hok, -⟩ | ⟨e, he, -, hen⟩⟩ := exec_cases faults op (by simp [op]) h
  · exact congrArg updated hok
  · have hENOENT : e = .ENOENT := by
      rw [he] at hanswer
      simpa using hanswer
    exact absurd (hen hENOENT) (fun hno => by cases hno)

lemma view_rateLines {lines : List Text} (hfirst : EnabledFirst lines) {h : Host N}
    (hs : Smooth faults ((RateLimit.loader fds).loadLines true lines) h) :
    view (run (Sys.exec faults) ((RateLimit.loader fds).loadLines true lines) h).2.settings =
      (lines.filterMap (fun line => readRateCommand (RateLimit.commandLine line))).foldl Command.apply
        ((Command.setFlag .ratelimit true).apply (view h.settings)) := by
  induction lines with
  | nil => simp [EnabledFirst, effective] at hfirst
  | cons line rest ih =>
    by_cases hskip : Loader.skipped line
    · have hrest : EnabledFirst rest := by simpa [EnabledFirst, effective, hskip] using hfirst
      rw [Loader.loadLines, if_pos hskip] at hs ⊢
      rw [List.filterMap_cons, readRateCommand_skipped (.inl hskip)]
      exact ih hrest hs
    · have hline : line ≠ DISABLED := by simpa [EnabledFirst, effective, hskip] using hfirst
      rw [Loader.loadLines, if_neg hskip, if_neg hline] at hs ⊢
      obtain ⟨hflag, hlines⟩ := smooth_bind hs
      obtain ⟨htrue, hview⟩ := setFlag_smooth fds hflag
      have hrest : (RateLimit.loader fds).loadLines false (line :: rest) =
          ((RateLimit.loader fds).applyLine line >>= fun _ => (RateLimit.loader fds).loadLines false rest) := by
        rw [Loader.loadLines, if_neg hskip]
      rw [htrue, if_pos rfl, ← hrest] at hlines
      rw [run_bind, htrue, if_pos rfl, ← hrest, performs_loadRest fds (line :: rest) _ hlines, hview]

end Loading

lemma commands_effective (lines : List Text) :
    lines.filterMap (fun line => readRateCommand (RateLimit.commandLine line)) =
      (effective lines).filterMap (fun line => (lineAction line).map limitCommand) := by
  rw [effective, List.filterMap_filter]
  apply List.filterMap_congr
  intro line _
  rw [← readRateCommand_line]
  cases hs : Loader.skipped line with
  | true => rw [readRateCommand_skipped (.inl hs)]; rfl
  | false => rfl

def onAddress (a : Addr) (line : Text) : Option (Option IpRateLimit) :=
  ((lineAction line).map limitCommand).bind (Command.onLimit a)

lemma onAddress_none {a : Addr} {line : Text} (h : ¬ ActsOn a line) : onAddress a line = none := by
  cases hx : lineAction line with
  | none => simp [onAddress, hx]
  | some x =>
    obtain ⟨ip, e⟩ := x
    have hip : ip ≠ a := fun hi => h ⟨(ip, e), hx, hi⟩
    cases e <;> simp [onAddress, hx, limitCommand, Command.onLimit, hip]

lemma onAddress_some {a : Addr} {line : Text} {e : Option (BitVec 32)} (h : lineAction line = some (a, e)) :
    onAddress a line = some (e.map rateLimitConfig) := by
  cases e <;> simp [onAddress, h, limitCommand, Command.onLimit]

lemma flag_foldl {cs : List Command} (hcs : ∀ c ∈ cs, c.IsLimit) (v : View) :
    (cs.foldl Command.apply v).configState = v.configState := by
  induction cs generalizing v with
  | nil => rfl
  | cons c cs ih =>
    rw [List.foldl_cons, ih (fun d hd => hcs d (List.mem_cons_of_mem _ hd))]
    have hc := hcs c List.mem_cons_self
    cases c with
    | addLimit ip config => rfl
    | removeLimit ip => rfl
    | _ => exact hc.elim

lemma lineAction_of_rejected {fds : RateFds} {line : Text}
    (h : RateLimit.updateConfig fds (RateLimit.commandLine line) = return false) : lineAction line = none := by
  have hcall : callOf (RateLimit.updateConfig fds (RateLimit.commandLine line)) = none := by
    rw [h]
    rfl
  rw [callOf_ratelimit] at hcall
  cases hread : readRateCommand (RateLimit.commandLine line) with
  | none =>
    rw [readRateCommand_line] at hread
    exact Option.map_eq_none_iff.mp hread
  | some c =>
    obtain ⟨op, hop, -⟩ := (isLimit_of_read hread).call fds
    rw [hread, Option.bind_some, hop] at hcall
    cases hcall

lemma rate_loadConfig {mgr : MapFdManager} (hown : 0 ≤ mgr.fd .ipRateLimitsMap)
    (hstate : 0 ≤ mgr.fd .configStateMap) (text : Text) :
    RateLimit.loadConfig mgr (some text) =
      ((RateLimit.loader ⟨mgr.fd .ipRateLimitsMap, mgr.fd .configStateMap⟩).loadLines true (getlines text) >>=
        fun answer => return (answer, ⟨mgr.fd .ipRateLimitsMap, mgr.fd .configStateMap⟩)) := by
  have h1 : mgr.getMapFdByName .ipRateLimitsMap = mgr.fd .ipRateLimitsMap := if_neg (not_lt.mpr hown)
  have h2 : mgr.getMapFdByName .configStateMap = mgr.fd .configStateMap := if_neg (not_lt.mpr hstate)
  simp only [RateLimit.loadConfig, h1, h2, if_neg (not_lt.mpr hown), if_neg (not_lt.mpr hstate)]

section Meaning

variable {faults : Faults N} {mgr : MapFdManager} (hown : 0 ≤ mgr.fd .ipRateLimitsMap)
  (hstate : 0 ≤ mgr.fd .configStateMap) {text : Text} (hfirst : EnabledFirst (getlines text)) {h : Host N}
  (hsmooth : Smooth faults (RateLimit.loadConfig mgr (some text)) h)
include hown hstate hfirst hsmooth

lemma view_loadConfig :
    view (run (Sys.exec faults) (RateLimit.loadConfig mgr (some text)) h).2.settings =
      ((effective (getlines text)).filterMap (fun line => (lineAction line).map limitCommand)).foldl Command.apply
        ((Command.setFlag .ratelimit true).apply (view h.settings)) := by
  rw [rate_loadConfig hown hstate] at hsmooth ⊢
  rw [run_bind, ← commands_effective, ← view_rateLines _ hfirst (smooth_bind hsmooth).1]
  rfl

lemma flag_loadConfig :
    (run (Sys.exec faults) (RateLimit.loadConfig mgr (some text)) h).2.settings.configState 1 = 1 := by
  have hflag := congrArg View.configState (view_loadConfig hown hstate hfirst hsmooth)
  rw [flag_foldl] at hflag
  · exact congrFun hflag 1
  · intro c hc
    obtain ⟨line, -, hline⟩ := List.mem_filterMap.mp hc
    rw [← readRateCommand_line] at hline
    exact isLimit_of_read hline

lemma limit_loadConfig (hempty : ∀ a, h.settings.ipRateLimits.get? a = none) (a : Addr) :
    (run (Sys.exec faults) (RateLimit.loadConfig mgr (some text)) h).2.settings.ipRateLimits.get? a =
      (latest? (onAddress a) (effective (getlines text))).join := by
  have hlimits := congrFun (congrArg View.limits (view_loadConfig hown hstate hfirst hsmooth)) a
  have hnone : ((Command.setFlag .ratelimit true).apply (view h.settings)).limits a = none := hempty a
  rw [limits_foldl, hnone, latest?_filterMap] at hlimits
  refine hlimits.trans ?_
  change (latest? (onAddress a) (effective (getlines text))).getD none = _
  cases latest? (onAddress a) (effective (getlines text)) <;> rfl

end Meaning

theorem rate_file_meaning (faults : Faults N) (mgr : MapFdManager) (hown : 0 ≤ mgr.fd .ipRateLimitsMap)
    (hstate : 0 ≤ mgr.fd .configStateMap) (text : Text) (hfirst : EnabledFirst (getlines text)) (h : Host N)
    (hempty : ∀ a, h.settings.ipRateLimits.get? a = none)
    (hsmooth : Smooth faults (RateLimit.loadConfig mgr (some text)) h) :
    let s := (run (Sys.exec faults) (RateLimit.loadConfig mgr (some text)) h).2.settings
    s.configState 1 = 1 ∧
    (∀ a, ((∀ line ∈ effective (getlines text), ¬ ActsOn a line) → s.ipRateLimits.get? a = none) ∧
      ∀ pre line post, effective (getlines text) = pre ++ line :: post → (∀ l ∈ post, ¬ ActsOn a l) →
        (lineAction line = some (a, none) → s.ipRateLimits.get? a = none) ∧
        ∀ p, lineAction line = some (a, some p) → ∃ limit, s.ipRateLimits.get? a = some limit ∧
          limit.packetsPerSecond = p ∧ limit.packetIntervalNs.toNat = 1000000000 / p.toNat) ∧
    ∀ line fds, line = ENABLED ∨ line = DISABLED ∨
      RateLimit.updateConfig fds (RateLimit.commandLine line) = (return false) → ∀ a, ¬ ActsOn a line := by
  refine ⟨flag_loadConfig hown hstate hfirst hsmooth, ?_, ?_⟩
  · intro a
    rw [limit_loadConfig hown hstate hfirst hsmooth hempty]
    constructor
    · intro hnone
      rw [latest?_eq_none (fun line hl => onAddress_none (hnone line hl))]
      rfl
    · intro pre line post hsplit hpost
      have hlater : ∀ l ∈ post, onAddress a l = none := fun l hl => onAddress_none (hpost l hl)
      rw [hsplit]
      constructor
      · intro hline
        rw [latest?_of_split (onAddress_some hline) hlater]
        rfl
      · intro p hline
        rw [latest?_of_split (onAddress_some hline) hlater]
        exact ⟨rateLimitConfig p, rfl, rfl, toNat_interval p⟩
  · rintro line fds hline a ⟨x, hx, -⟩
    have hnone : lineAction line = none := by
      rcases hline with hflag | hflag | hrejected
      · exact if_pos (.inl hflag)
      · exact if_pos (.inr hflag)
      · exact lineAction_of_rejected hrejected
    rw [hnone] at hx
    cases hx

def alternating : Text := "add 10.0.0.1 5\n10.0.0.2 10\nremove 10.0.0.1\nadd 10.0.0.2 fast\n10.0.0.2 3".toList

theorem rate_file_meaning_alternating :
    let s := (run (Sys.exec (fun _ _ _ => false)) (RateLimit.loadConfig ⟨fun _ => 3⟩ (some alternating))
      (⟨.zeroed, 0, []⟩ : Host 4)).2.settings
    s.configState 1 = 1 ∧ s.ipRateLimits.get? 0x0A000001#32 = none ∧
    ∃ limit, s.ipRateLimits.get? 0x0A000002#32 = some limit ∧ limit.packetsPerSecond = 3 ∧
      limit.packetIntervalNs.toNat = 333333333 := by
  obtain ⟨hflag, hlimits, -⟩ := rate_file_meaning (N := 4) (fun _ _ _ => false) ⟨fun _ => 3⟩
    (by decide) (by decide)
    alternating (by decide +kernel) ⟨.zeroed, 0, []⟩ (fun _ => rfl) (by decide +kernel)
  have hlines : effective (getlines alternating) = ["add 10.0.0.1 5".toList, "10.0.0.2 10".toList] ++
      "remove 10.0.0.1".toList :: ["add 10.0.0.2 fast".toList, "10.0.0.2 3".toList] := by decide +kernel
  have hlast : effective (getlines alternating) = ["add 10.0.0.1 5".toList, "10.0.0.2 10".toList,
      "remove 10.0.0.1".toList, "add 10.0.0.2 fast".toList] ++ "10.0.0.2 3".toList :: [] := by decide +kernel
  refine ⟨hflag, ?_, ?_⟩
  · exact ((hlimits 0x0A000001#32).2 _ _ _ hlines (by decide +kernel)).1 (by decide +kernel)
  · exact ((hlimits 0x0A000002#32).2 _ _ _ hlast (by simp)).2 3 (by decide +kernel)

end PacketFilter.Config
