import PacketFilter.Engine.File

/-! Reloading the configuration file: `update_from_config` of packet_filter.cpp. -/

namespace PacketFilter.Engine

open Library Library.Programs Library.Scanning Kernel Prog
open Config (Sys SysProg Faults Host Errno sys updated deleted)

variable {N : ℕ}

def printNat (n : ℕ) : Text := Nat.toDigits 10 n

def octet (a : Addr) (i : ℕ) : ℕ := a.toNat / 256 ^ i % 256

def inetNtoa (a : Addr) : Text :=
  printNat (octet a 3) ++ '.' :: printNat (octet a 2) ++ '.' :: printNat (octet a 1) ++ '.' :: printNat (octet a 0)

def subnetStrBuf (key : BpfTrieKey) : Text :=
  (inetNtoa key.ip ++ '/' :: printNat key.prefixlen.toNat).take (INET_ADDRSTRLEN + 3)

/-- What a call gives back: its return code, or an exception that nobody catches. -/
inductive Outcome where
  | returned (code : ℤ)
  | threw
  deriving DecidableEq

def addToBlacklist (mapFd : ℤ) (subnetStr : Text) : SysProg Outcome :=
  match subnetNode ((splitSubnet subnetStr).1.take (INET_ADDRSTRLEN - 1)) (splitSubnet subnetStr).2 with
  | .threw => return .threw
  | .invalid => return .returned (-1)
  | .entry node => do
    if updated (← sys (.updateSubnets .blacklist mapFd node.key 1)) then return .returned 0 else return .returned (-1)

def removeFromBlacklist (mapFd : ℤ) (key : BpfTrieKey) : SysProg ℤ := do
  if deleted (← sys (.deleteSubnets .blacklist mapFd key)) then return 0 else return -1

def addToRateLimits (mapFd : ℤ) (limit : RateLimit) : SysProg ℤ := do
  if updated (← sys (.updateRateLimits mapFd limit.ip ⟨limit.pps, limit.intervalNs⟩)) then return 0 else return -1

def removeFromRateLimits (mapFd : ℤ) (ip : Addr) : SysProg ℤ := do
  if deleted (← sys (.deleteRateLimits mapFd ip)) then return 0 else return -1

section Sync

variable (mapFd : ℤ)

def removeSubnets (new : List SubnetNode) : List SubnetNode → SysProg Unit
  | [] => return ()
  | node :: rest => do
    if node ∉ new then
      let _ ← removeFromBlacklist mapFd node.key
      removeSubnets new rest
    else removeSubnets new rest

def addSubnets (current : List SubnetNode) : List SubnetNode → SysProg Outcome
  | [] => return .returned 0
  | node :: rest => do
    if node ∉ current then
      match ← addToBlacklist mapFd (subnetStrBuf node.key) with
      | .threw => return .threw
      | .returned _ => addSubnets current rest
    else addSubnets current rest

def syncBlacklist (current new : List SubnetNode) : SysProg Outcome := do
  removeSubnets mapFd new current
  addSubnets mapFd current new

def removeRates (new : List RateLimit) : List RateLimit → SysProg Unit
  | [] => return ()
  | limit :: rest => do
    if new.any (·.ip = limit.ip) then removeRates new rest
    else
      let _ ← removeFromRateLimits mapFd limit.ip
      removeRates new rest

def needsUpdate (current : List RateLimit) (limit : RateLimit) : Bool :=
  match current.find? (·.ip = limit.ip) with
  | none => true
  | some tracked => limit.pps ≠ tracked.pps

def addRates (current : List RateLimit) : List RateLimit → SysProg Unit
  | [] => return ()
  | limit :: rest => do
    if needsUpdate current limit then
      let _ ← addToRateLimits mapFd limit
      addRates current rest
    else addRates current rest

def syncRates (current new : List RateLimit) : SysProg Unit := do
  removeRates mapFd new current
  addRates mapFd current new

end Sync

structure State (N : ℕ) where
  host : Host N
  updateSignal : BitVec 64
  filterInterfaceName : Text
  currentIfindex : BitVec 32
  currentBlacklistSubnets : List SubnetNode
  currentRateLimits : List RateLimit

structure Env (N : ℕ) where
  mapFdBlacklistSubnets : ℤ
  mapFdRateLimits : ℤ
  ifNametoindex : Text → BitVec 32
  faults : Faults N

/-- A call of `update_from_config`: the file it finds, the clock, and whether the signal map takes its write. -/
structure Call where
  file : Option Text
  now : BitVec 64
  signalled : Bool

namespace State

variable (env : Env N)

def setInterface (ifaceName : Text) (s : State N) : Bool × State N :=
  if s.filterInterfaceName = [] then
    (env.ifNametoindex ifaceName ≠ 0,
      { s with filterInterfaceName := ifaceName, currentIfindex := env.ifNametoindex ifaceName })
  else (s.filterInterfaceName = ifaceName, s)

def applySubnets (new : List SubnetNode) (s : State N) : Outcome × State N :=
  let r := run (Sys.exec env.faults) (syncBlacklist env.mapFdBlacklistSubnets s.currentBlacklistSubnets new) s.host
  match r.1 with
  | .threw => (.threw, { s with host := r.2 })
  | .returned _ => (.returned 0, { s with host := r.2, currentBlacklistSubnets := new })

def applyRates (new : List RateLimit) (s : State N) : State N :=
  let r := run (Sys.exec env.faults) (syncRates env.mapFdRateLimits s.currentRateLimits new) s.host
  { s with host := r.2, currentRateLimits := new }

def signal (call : Call) (s : State N) : State N :=
  if call.signalled then { s with updateSignal := call.now } else s

def sync (subnets : Option (List SubnetNode)) (limits : Option (List RateLimit)) (call : Call) (s : State N) :
    Outcome × State N :=
  match subnets.elim (.returned 0, s) (fun new => s.applySubnets env new) with
  | (.threw, s) => (.threw, s)
  | (.returned _, s) => (.returned 0, (limits.elim s (fun new => s.applyRates env new)).signal call)

def updateFromConfig (call : Call) (s : State N) : Outcome × State N :=
  match call.file with
  | none => (.returned (-1), s)
  | some text =>
    match (fieldsOf text).ifaceName with
    | none => (.returned (-1), s)
    | some ifaceName =>
      match s.setInterface env ifaceName with
      | (false, s) => (.returned (-1), s)
      | (true, s) =>
        match (fieldsOf text).newSubnets with
        | none => (.threw, s)
        | some subnets => s.sync env subnets (fieldsOf text).newRateLimits call

end State

end PacketFilter.Engine
