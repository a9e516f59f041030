import PacketFilter.Config.Manager
import PacketFilter.Library.History

/-! What a message commands, and the settings seen as the outcome of the commands accepted so far. -/

namespace PacketFilter.Config

open Library Library.Programs Library.Scanning Library.History Kernel Prog

variable {N : ℕ}

inductive Command where
  | setFlag (kind : Kind) (on : Bool)
  | addNet (l : SubnetList) (net : Network 32)
  | removeNet (l : SubnetList) (net : Network 32)
  | addLimit (ip : Addr) (config : IpRateLimit)
  | removeLimit (ip : Addr)

def Kind.slot : Kind → Fin 20
  | .subnets .blacklist => 0
  | .ratelimit => 1
  | .subnets .whitelist => 2

structure View where
  configState : Fin 20 → BitVec 8
  nets : SubnetList → Network 32 → Option (BitVec 8)
  limits : Addr → Option IpRateLimit

def view (s : Settings N) : View := ⟨s.configState, fun l => (subnets s l).get?, s.ipRateLimits.get?⟩

def Command.apply (v : View) : Command → View
  | .setFlag kind on => { v with configState := Function.update v.configState kind.slot (if on then 1 else 0) }
  | .addNet l net => { v with nets := fun l' n => if l' = l ∧ n = net then some 1 else v.nets l' n }
  | .removeNet l net => { v with nets := fun l' n => if l' = l ∧ n = net then none else v.nets l' n }
  | .addLimit ip config => { v with limits := fun a => if a = ip then some config else v.limits a }
  | .removeLimit ip => { v with limits := fun a => if a = ip then none else v.limits a }

def readSubnetCommand (l : SubnetList) (message : Text) : Option Command :=
  let (command, rest) := token message
  if command = ENABLED then some (.setFlag (.subnets l) true)
  else if command = DISABLED then some (.setFlag (.subnets l) false)
  else
    match (parseSubnet (token rest).1).bind network? with
    | none => none
    | some net =>
      if command = ADD then some (.addNet l net)
      else if command = REMOVE then some (.removeNet l net)
      else none

def readRateCommand (message : Text) : Option Command :=
  let (command, rest) := token message
  if command = ENABLED then some (.setFlag .ratelimit true)
  else if command = DISABLED then some (.setFlag .ratelimit false)
  else
    match inetPton (token rest).1 with
    | none => none
    | some ip =>
      if command = ADD then
        match extractUint32 (token rest).2 with
        | none => none
        | some packetsPerSecond =>
          if packetsPerSecond = 0 then none else some (.addLimit ip (rateLimitConfig packetsPerSecond))
      else if command = REMOVE then some (.removeLimit ip)
      else none

def readCommand : Kind → Text → Option Command
  | .subnets l => readSubnetCommand l
  | .ratelimit => readRateCommand

lemma parseSubnet_network {s : Text} {key : IPSubnet} (h : parseSubnet s = some key) :
    ∃ net, network? key = some net := by
  unfold parseSubnet at h
  split at h
  · cases h
  · split at h
    · cases h
    · split at h
      · cases h
      · split_ifs at h with hv
        cases h
        exact ⟨_, dif_pos (by simpa using hv)⟩

/-- What `updateConfig` of a list makes of a message: the command it reads, and the program it then runs. -/
inductive SubnetList.Reads (l : SubnetList) (fds : ListFds) : Option Command → SysProg Bool → Prop
  | rejected : l.Reads fds none (return false)
  | flag (on : Bool) :
      l.Reads fds (some (.setFlag (.subnets l) on))
        (setState fds.mapFdConfigState l.configKey (if on then 1 else 0))
  | add {key : IPSubnet} {net : Network 32} (hn : network? key = some net) :
      l.Reads fds (some (.addNet l net)) (l.addIpSubnets fds key)
  | remove {key : IPSubnet} {net : Network 32} (hn : network? key = some net) :
      l.Reads fds (some (.removeNet l net)) (l.removeIpSubnets fds key)

lemma SubnetList.reads (l : SubnetList) (fds : ListFds) (message : Text) :
    l.Reads fds (readSubnetCommand l message) (l.updateConfig fds message) := by
  simp only [SubnetList.updateConfig, readSubnetCommand]
  by_cases h1 : (token message).1 = ENABLED
  · simp only [if_pos h1]
    exact .flag true
  simp only [if_neg h1]
  by_cases h2 : (token message).1 = DISABLED
  · simp only [if_pos h2]
    exact .flag false
  simp only [if_neg h2]
  by_cases h3 : (token (token message).2).1 = []
  · rw [if_pos h3, h3]
    exact .rejected
  rw [if_neg h3]
  cases hp : parseSubnet (token (token message).2).1 with
  | none => exact .rejected
  | some key =>
    obtain ⟨net, hn⟩ := parseSubnet_network hp
    simp only [Option.bind_some, hn]
    split_ifs
    · exact .add hn
    · exact .remove hn
    · exact .rejected

inductive RateLimit.Reads (fds : RateFds) : Option Command → SysProg Bool → Prop
  | rejected : RateLimit.Reads fds none (return false)
  | flag (on : Bool) : RateLimit.Reads fds (some (.setFlag .ratelimit on))
      (setState fds.mapFdConfigState ConfigKey.RATELIMIT (if on then 1 else 0))
  | add (ip : Addr) {p : BitVec 32} (hp : p ≠ 0) :
      RateLimit.Reads fds (some (.addLimit ip (rateLimitConfig p))) (RateLimit.addRateLimit fds ip p)
  | remove (ip : Addr) : RateLimit.Reads fds (some (.removeLimit ip)) (RateLimit.removeRateLimit fds ip)

lemma RateLimit.reads (fds : RateFds) (message : Text) :
    RateLimit.Reads fds (readRateCommand message) (RateLimit.updateConfig fds message) := by
  simp only [RateLimit.updateConfig, readRateCommand]
  by_cases h1 : (token message).1 = ENABLED
  · simp only [if_pos h1]
    exact .flag true
  simp only [if_neg h1]
  by_cases h2 : (token message).1 = DISABLED
  · simp only [if_pos h2]
    exact .flag false
  simp only [if_neg h2]
  by_cases h3 : (token (token message).2).1 = []
  · rw [if_pos h3, h3]
    exact .rejected
  rw [if_neg h3]
  cases inetPton (token (token message).2).1 with
  | none => exact .rejected
  | some ip =>
    by_cases h4 : (token message).1 = ADD
    · simp only [if_pos h4]
      cases extractUint32 (token (token message).2).2 with
      | none => exact .rejected
      | some p =>
        by_cases hp : p = 0
        · simp only [if_pos hp]
          exact .rejected
        · simp only [if_neg hp]
          exact .add ip hp
    · simp only [if_neg h4]
      split_ifs
      · exact .remove ip
      · exact .rejected

section Calls

variable (faults : Faults N)

lemma exec_cases (op : Sys) (hop : ∀ note, op ≠ .report note) (h : Host N) :
    (op.exec faults h).2.journal = h.journal ∧
      (((op.exec faults h).1 = .ok () ∧ op.apply h.settings = .ok (op.exec faults h).2.settings) ∨
        ∃ e, (op.exec faults h).1 = .error e ∧ (op.exec faults h).2.settings = h.settings ∧
          (e = .ENOENT → op.apply h.settings = .error .ENOENT)) := by
  cases op with
  | report note => exact absurd rfl (hop note)
  | _ =>
    simp only [Sys.exec]
    split_ifs
    · exact ⟨rfl, Or.inr ⟨_, rfl, rfl, by simp⟩⟩
    · exact ⟨rfl, Or.inr ⟨_, rfl, rfl, by simp⟩⟩
    · split
      · rename_i e he
        exact ⟨rfl, Or.inr ⟨e, rfl, rfl, fun hn => hn ▸ he⟩⟩
      · rename_i s hs
        exact ⟨rfl, Or.inl ⟨rfl, hs⟩⟩

def Carries (p : SysProg Bool) (c : Option Command) : Prop :=
  ∀ h : Host N, (run (Sys.exec faults) p h).2.journal = h.journal ∧
    if (run (Sys.exec faults) p h).1 then
      ∃ cmd, c = some cmd ∧ view (run (Sys.exec faults) p h).2.settings = cmd.apply (view h.settings)
    else (run (Sys.exec faults) p h).2.settings = h.settings

lemma carries_false (c : Option Command) : Carries faults (return false) c :=
  fun _ => ⟨rfl, rfl⟩

lemma carries_updated {op : Sys} (hop : ∀ note, op ≠ .report note) {cmd : Command}
    (ha : ∀ s s' : Settings N, op.apply s = .ok s' → view s' = cmd.apply (view s)) :
    Carries faults (do return updated (← sys op)) (some cmd) := by
  intro h
  obtain ⟨hj, ⟨hr, hs⟩ | ⟨e, hr, hs, _⟩⟩ := exec_cases faults op hop h
  · refine ⟨hj, ?_⟩
    simp only [sys, perform_bind, run_call, pure_eq, run_ret, hr, updated, if_true]
    exact ⟨cmd, rfl, ha _ _ hs⟩
  · refine ⟨hj, ?_⟩
    simp only [sys, perform_bind, run_call, pure_eq, run_ret, hr, updated]
    exact hs

lemma carries_deleted {op : Sys} (hop : ∀ note, op ≠ .report note) {cmd : Command}
    (ha : ∀ s s' : Settings N, op.apply s = .ok s' → view s' = cmd.apply (view s))
    (hn : ∀ s : Settings N, op.apply s = .error .ENOENT → view s = cmd.apply (view s)) :
    Carries faults (do return deleted (← sys op)) (some cmd) := by
  intro h
  obtain ⟨hj, ⟨hr, hs⟩ | ⟨e, hr, hs, he⟩⟩ := exec_cases faults op hop h
  · refine ⟨hj, ?_⟩
    simp only [sys, perform_bind, run_call, pure_eq, run_ret, hr, deleted, if_true]
    exact ⟨cmd, rfl, ha _ _ hs⟩
  · refine ⟨hj, ?_⟩
    simp only [sys, perform_bind, run_call, pure_eq, run_ret, hr, deleted]
    by_cases hen : e = .ENOENT
    · rw [if_pos (by simpa using hen), hs]
      exact ⟨cmd, rfl, hn _ (he hen)⟩
    · rw [if_neg (by simpa using hen)]
      exact hs

lemma view_setFlag {kind : Kind} {on : Bool} {fd : ℤ} {key : BitVec 32} (hk : key.toNat = kind.slot)
    (s s' : Settings N) (h : Sys.apply s (.updateConfigState fd key (if on then 1 else 0)) = .ok s') :
    view s' = (Command.setFlag kind on).apply (view s) := by
  have hlt : key.toNat < 20 := hk ▸ kind.slot.isLt
  have hs : (⟨key.toNat, hlt⟩ : Fin 20) = kind.slot := Fin.ext hk
  simp only [Sys.apply, dif_pos hlt, hs] at h
  cases h
  rfl

lemma view_setSubnets (s : Settings N) (l : SubnetList) (t : SubnetsMap N) :
    view (setSubnets s l t) = { view s with nets := fun l' => if l' = l then t.get? else (view s).nets l' } := by
  cases l <;> simp only [view, setSubnets, View.mk.injEq, true_and, and_true] <;> funext l' <;> cases l' <;> rfl

lemma view_addNet {l : SubnetList} {key : IPSubnet} {net : Network 32} (hn : network? key = some net) {fd : ℤ}
    (s s' : Settings N) (h : Sys.apply s (.updateSubnets l fd key 1) = .ok s') :
    view s' = (Command.addNet l net).apply (view s) := by
  simp only [Sys.apply, hn] at h
  split at h
  · cases h
  · rename_i t ht
    cases h
    rw [view_setSubnets]
    simp only [Command.apply, View.mk.injEq, true_and, and_true]
    funext l' n
    by_cases hl : l' = l
    · subst l'
      simp [BoundedMap.get?_update ht, view]
    · simp [hl]

lemma view_removeNet {l : SubnetList} {key : IPSubnet} {net : Network 32} (hn : network? key = some net) {fd : ℤ}
    (s s' : Settings N) (h : Sys.apply s (.deleteSubnets l fd key) = .ok s') :
    view s' = (Command.removeNet l net).apply (view s) := by
  simp only [Sys.apply, hn] at h
  split_ifs at h
  cases h
  rw [view_setSubnets]
  simp only [Command.apply, View.mk.injEq, true_and, and_true]
  funext l' n
  by_cases hl : l' = l
  · subst l'
    simp [BoundedMap.get?_erase, view]
  · simp [hl]

lemma view_removeNet_absent {l : SubnetList} {key : IPSubnet} {net : Network 32} (hn : network? key = some net)
    {fd : ℤ} (s : Settings N) (h : Sys.apply s (.deleteSubnets l fd key) = .error .ENOENT) :
    view s = (Command.removeNet l net).apply (view s) := by
  simp only [Sys.apply, hn] at h
  split_ifs at h with hg
  simp only [Command.apply, view, View.mk.injEq, true_and, and_true]
  funext l' n
  split_ifs with hl
  · obtain ⟨rfl, rfl⟩ := hl
    simpa using hg
  · rfl

lemma view_addLimit {ip : Addr} {config : IpRateLimit} {fd : ℤ} (s s' : Settings N)
    (h : Sys.apply s (.updateRateLimits fd ip config) = .ok s') :
    view s' = (Command.addLimit ip config).apply (view s) := by
  simp only [Sys.apply] at h
  split at h
  · cases h
  · rename_i t ht
    cases h
    simp only [Command.apply, view, View.mk.injEq, true_and]
    refine ⟨rfl, ?_⟩
    funext a
    exact BoundedMap.get?_update ht a

lemma view_removeLimit {ip : Addr} {fd : ℤ} (s s' : Settings N)
    (h : Sys.apply s (.deleteRateLimits fd ip) = .ok s') :
    view s' = (Command.removeLimit ip).apply (view s) := by
  simp only [Sys.apply] at h
  split_ifs at h
  cases h
  simp only [Command.apply, view, View.mk.injEq, true_and]
  refine ⟨rfl, ?_⟩
  funext a
  exact BoundedMap.get?_erase s.ipRateLimits ip a

lemma view_removeLimit_absent {ip : Addr} {fd : ℤ} (s : Settings N)
    (h : Sys.apply s (.deleteRateLimits fd ip) = .error .ENOENT) :
    view s = (Command.removeLimit ip).apply (view s) := by
  simp only [Sys.apply] at h
  split_ifs at h with hg
  simp only [Command.apply, view, View.mk.injEq, true_and]
  funext a
  split_ifs with ha
  · subst a
    simpa using hg
  · rfl

lemma carries_setState (kind : Kind) (on : Bool) (key : BitVec 32) (hk : key.toNat = kind.slot) (fd : ℤ) :
    Carries faults (setState fd key (if on then 1 else 0)) (some (.setFlag kind on)) :=
  carries_updated faults (by simp) (view_setFlag hk)

lemma carries_subnets (l : SubnetList) (fds : ListFds) (message : Text) :
    Carries faults (l.updateConfig fds message) (readSubnetCommand l message) := by
  have hk : l.configKey.toNat = (Kind.subnets l).slot := by cases l <;> rfl
  have hreads := l.reads fds message
  generalize readSubnetCommand l message = c, l.updateConfig fds message = p at hreads ⊢
  cases hreads with
  | rejected => exact carries_false faults _
  | flag on => exact carries_setState faults _ on _ hk _
  | add hn => exact carries_updated faults (by simp) (view_addNet hn)
  | remove hn => exact carries_deleted faults (by simp) (view_removeNet hn) (view_removeNet_absent hn)

lemma carries_ratelimit (fds : RateFds) (message : Text) :
    Carries faults (RateLimit.updateConfig fds message) (readRateCommand message) := by
  have hreads := RateLimit.reads fds message
  generalize readRateCommand message = c, RateLimit.updateConfig fds message = p at hreads ⊢
  cases hreads with
  | rejected => exact carries_false faults _
  | flag on => exact carries_setState faults .ratelimit on ConfigKey.RATELIMIT rfl _
  | add ip hp =>
    rw [RateLimit.addRateLimit, if_neg hp]
    exact carries_updated faults (by simp) view_addLimit
  | remove ip => exact carries_deleted faults (by simp) view_removeLimit view_removeLimit_absent

lemma carries_configType (c : ConfigType) (message : Text) :
    Carries faults (c.updateConfig message) (readCommand c.kind message) := by
  cases c with
  | subnets l fds => cases l <;> exact carries_subnets faults _ fds message
  | ratelimit fds => exact carries_ratelimit faults fds message

end Calls

end PacketFilter.Config
