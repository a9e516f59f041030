import PacketFilter.Config.Types

/-! Loading the configuration files and dispatching event lines: ConfigManager.cpp. -/

namespace PacketFilter.Config

open Library Library.Programs Library.Scanning Kernel

/-- What the loading loop of a configuration type is made of. -/
structure Loader where
  kind : Kind
  enable : SysProg Bool
  disable : SysProg Bool
  updateConfig : Text → SysProg Bool
  commandLine : Text → Text
  enabledWhenEmpty : Bool

namespace Loader

variable (ld : Loader)

def setFlag (on : Bool) : SysProg Bool := do
  let answer ← if on then ld.enable else ld.disable
  let _ ← sys (.report (.flag ld.kind on answer))
  return answer

def applyLine (line : Text) : SysProg Unit :=
  if line = ENABLED ∨ line = DISABLED then return ()
  else do
    let answer ← ld.updateConfig (ld.commandLine line)
    let _ ← sys (.report (.message ld.kind (ld.commandLine line) answer))
    return ()

def skipped (line : Text) : Bool := line = [] || line.head? = some '#'

def loadLines : (firstLine : Bool) → List Text → SysProg Bool
  | true, [] => ld.setFlag ld.enabledWhenEmpty
  | false, [] => return true
  | true, line :: rest =>
      if skipped line then loadLines true rest
      else if line = DISABLED then ld.setFlag false
      else do
        if ← ld.setFlag true then
          ld.applyLine line
          loadLines false rest
        else return false
  | false, line :: rest =>
      if skipped line then loadLines false rest
      else do
        ld.applyLine line
        loadLines false rest

end Loader

inductive MapName where
  | blacklistSubnetsMap
  | whitelistSubnetsMap
  | configStateMap
  | ipRateLimitsMap
  deriving DecidableEq

structure MapFdManager where
  fd : MapName → ℤ

def MapFdManager.getMapFdByName (mgr : MapFdManager) (name : MapName) : ℤ :=
  if mgr.fd name < 0 then -1 else mgr.fd name

def addPrefix (line : Text) : Text := ADD ++ ' ' :: line

lemma guarded_cases {α : Type} {c d : Prop} [Decidable c] [Decidable d] (x y z : α) (file : Option Text)
    (load : Text → SysProg α) {p : SysProg α} (hp : p = if c then return x else if d then return y else
      match file with
      | none => return z
      | some text => load text) : (∃ r, p = return r) ∨ ∃ text, p = load text := by
  subst hp
  split_ifs
  · exact Or.inl ⟨x, rfl⟩
  · exact Or.inl ⟨y, rfl⟩
  · cases file with
    | none => exact Or.inl ⟨z, rfl⟩
    | some text => exact Or.inr ⟨text, rfl⟩

namespace Blacklist

def updateConfig (fds : ListFds) (message : Text) : SysProg Bool :=
  SubnetList.updateConfig .blacklist fds message

def loader (fds : ListFds) : Loader where
  kind := .subnets .blacklist
  enable := SubnetList.enable .blacklist fds
  disable := SubnetList.disable .blacklist fds
  updateConfig := updateConfig fds
  commandLine := addPrefix
  enabledWhenEmpty := true

def loadConfig (mgr : MapFdManager) (file : Option Text) : SysProg (Bool × ListFds) :=
  let mapFdSubnets := mgr.getMapFdByName .blacklistSubnetsMap
  if mapFdSubnets < 0 then return (false, ⟨mapFdSubnets, -1⟩)
  else
    let fds := ⟨mapFdSubnets, mgr.getMapFdByName .configStateMap⟩
    if fds.mapFdConfigState < 0 then return (false, fds)
    else
      match file with
      | none => return (false, fds)
      | some text => do return (← (loader fds).loadLines true (getlines text), fds)

lemma loadConfig_cases (mgr : MapFdManager) (file : Option Text) :
    (∃ r, loadConfig mgr file = return r) ∨
      ∃ fds text, loadConfig mgr file = do return (← (loader fds).loadLines true (getlines text), fds) := by
  refine (guarded_cases _ _ _ file _ rfl).imp_right ?_
  rintro ⟨text, ht⟩
  exact ⟨_, text, ht⟩

end Blacklist

namespace Whitelist

def updateConfig (fds : ListFds) (message : Text) : SysProg Bool :=
  SubnetList.updateConfig .whitelist fds message

def loader (fds : ListFds) : Loader where
  kind := .subnets .whitelist
  enable := SubnetList.enable .whitelist fds
  disable := SubnetList.disable .whitelist fds
  updateConfig := updateConfig fds
  commandLine := addPrefix
  enabledWhenEmpty := false

def loadConfig (mgr : MapFdManager) (file : Option Text) : SysProg (Bool × ListFds) :=
  let mapFdSubnets := mgr.getMapFdByName .whitelistSubnetsMap
  if mapFdSubnets < 0 then return (false, ⟨mapFdSubnets, -1⟩)
  else
    let fds := ⟨mapFdSubnets, mgr.getMapFdByName .configStateMap⟩
    if fds.mapFdConfigState < 0 then return (false, fds)
    else
      match file with
      | none => return (true, fds)
      | some text => do return (← (loader fds).loadLines true (getlines text), fds)

lemma loadConfig_cases (mgr : MapFdManager) (file : Option Text) :
    (∃ r, loadConfig mgr file = return r) ∨
      ∃ fds text, loadConfig mgr file = do return (← (loader fds).loadLines true (getlines text), fds) := by
  refine (guarded_cases _ _ _ file _ rfl).imp_right ?_
  rintro ⟨text, ht⟩
  exact ⟨_, text, ht⟩

end Whitelist

namespace RateLimit

def commandLine (line : Text) : Text :=
  if (ADD ++ [' ']).isPrefixOf line || (REMOVE ++ [' ']).isPrefixOf line then line else addPrefix line

def loader (fds : RateFds) : Loader where
  kind := .ratelimit
  enable := enableRatelimit fds
  disable := disableRatelimit fds
  updateConfig := updateConfig fds
  commandLine := commandLine
  enabledWhenEmpty := false

def loadConfig (mgr : MapFdManager) (file : Option Text) : SysProg (Bool × RateFds) :=
  let mapFdRateLimits := mgr.getMapFdByName .ipRateLimitsMap
  if mapFdRateLimits < 0 then return (false, ⟨mapFdRateLimits, -1⟩)
  else
    let fds := ⟨mapFdRateLimits, mgr.getMapFdByName .configStateMap⟩
    if fds.mapFdConfigState < 0 then return (false, fds)
    else
      match file with
      | none => return (true, fds)
      | some text => do return (← (loader fds).loadLines true (getlines text), fds)

lemma loadConfig_cases (mgr : MapFdManager) (file : Option Text) :
    (∃ r, loadConfig mgr file = return r) ∨
      ∃ fds text, loadConfig mgr file = do return (← (loader fds).loadLines true (getlines text), fds) := by
  refine (guarded_cases _ _ _ file _ rfl).imp_right ?_
  rintro ⟨text, ht⟩
  exact ⟨_, text, ht⟩

end RateLimit

inductive ConfigType where
  | subnets (l : SubnetList) (fds : ListFds)
  | ratelimit (fds : RateFds)

namespace ConfigType

def kind : ConfigType → Kind
  | .subnets l _ => .subnets l
  | .ratelimit _ => .ratelimit

def getTypeName : ConfigType → Text
  | .subnets .blacklist _ => ['b', 'l', 'a', 'c', 'k', 'l', 'i', 's', 't']
  | .subnets .whitelist _ => ['w', 'h', 'i', 't', 'e', 'l', 'i', 's', 't']
  | .ratelimit _ => ['r', 'a', 't', 'e', 'l', 'i', 'm', 'i', 't']

def updateConfig : ConfigType → Text → SysProg Bool
  | .subnets .blacklist fds => Blacklist.updateConfig fds
  | .subnets .whitelist fds => Whitelist.updateConfig fds
  | .ratelimit fds => RateLimit.updateConfig fds

end ConfigType

structure Files where
  blacklist : Option Text
  whitelist : Option Text
  ratelimit : Option Text

def loadAllConfigs (mgr : MapFdManager) (files : Files) : SysProg (List ConfigType) := do
  let (_, blacklist) ← Blacklist.loadConfig mgr files.blacklist
  let (_, whitelist) ← Whitelist.loadConfig mgr files.whitelist
  let (_, ratelimit) ← RateLimit.loadConfig mgr files.ratelimit
  return [.subnets .blacklist blacklist, .subnets .whitelist whitelist, .ratelimit ratelimit]

def processEventMessage (configTypes : List ConfigType) (line : Text) : SysProg Unit :=
  match splitFirst ':' line with
  | none => return ()
  | some (configTypeStr, message) =>
    match configTypes.find? (fun config => config.getTypeName = trim configTypeStr) with
    | none => return ()
    | some config => do
      let answer ← config.updateConfig (trim message)
      let _ ← sys (.report (.message config.kind (trim message) answer))
      return ()

end PacketFilter.Config
