import PacketFilter.Config.System
import PacketFilter.Library.Scanning

/-! The three configuration types: Blacklist.cpp, Whitelist.cpp and RateLimit.cpp. -/

namespace PacketFilter.Config

open Library Library.Programs Library.Scanning Kernel

def ADD : Text := ['a', 'd', 'd']
def REMOVE : Text := ['r', 'e', 'm', 'o', 'v', 'e']
def ENABLED : Text := ['e', 'n', 'a', 'b', 'l', 'e', 'd']
def DISABLED : Text := ['d', 'i', 's', 'a', 'b', 'l', 'e', 'd']

namespace ConfigKey

def BLACKLIST : BitVec 32 := 0
def RATELIMIT : BitVec 32 := 1
def WHITELIST : BitVec 32 := 2

end ConfigKey

/-- Calls that answer 0, and deletions of an entry that is not there, count as done. -/
def updated : Except Errno Unit → Bool
  | .ok _ => true
  | .error _ => false

def deleted : Except Errno Unit → Bool
  | .ok _ => true
  | .error e => e = .ENOENT

def setState (fd : ℤ) (key : BitVec 32) (value : BitVec 8) : SysProg Bool := do
  return updated (← sys (.updateConfigState fd key value))

def parseSubnet (subnetStr : Text) : Option IPSubnet :=
  match splitFirst '/' subnetStr with
  | none => none
  | some (ipStr, prefixStr) =>
    match inetPton ipStr with
    | none => none
    | some ip =>
      match stoul prefixStr with
      | none => none
      | some v => if (v.setWidth 32).toNat > 32 then none else some ⟨v.setWidth 32, ip⟩

structure ListFds where
  mapFdSubnets : ℤ
  mapFdConfigState : ℤ

namespace SubnetList

def configKey : SubnetList → BitVec 32
  | .blacklist => ConfigKey.BLACKLIST
  | .whitelist => ConfigKey.WHITELIST

def enable (l : SubnetList) (fds : ListFds) : SysProg Bool := setState fds.mapFdConfigState l.configKey 1

def disable (l : SubnetList) (fds : ListFds) : SysProg Bool := setState fds.mapFdConfigState l.configKey 0

def addIpSubnets (l : SubnetList) (fds : ListFds) (key : IPSubnet) : SysProg Bool := do
  return updated (← sys (.updateSubnets l fds.mapFdSubnets key 1))

def removeIpSubnets (l : SubnetList) (fds : ListFds) (key : IPSubnet) : SysProg Bool := do
  return deleted (← sys (.deleteSubnets l fds.mapFdSubnets key))

def updateConfig (l : SubnetList) (fds : ListFds) (message : Text) : SysProg Bool :=
  let (command, rest) := token message
  if command = ENABLED then l.enable fds
  else if command = DISABLED then l.disable fds
  else
    let (subnetStr, _) := token rest
    if subnetStr = [] then return false
    else
      match parseSubnet subnetStr with
      | none => return false
      | some subnetKey =>
        if command = ADD then l.addIpSubnets fds subnetKey
        else if command = REMOVE then l.removeIpSubnets fds subnetKey
        else return false

end SubnetList

structure RateFds where
  mapFdRateLimits : ℤ
  mapFdConfigState : ℤ

def rateLimitConfig (packetsPerSecond : BitVec 32) : IpRateLimit :=
  ⟨packetsPerSecond, BitVec.ofNat 64 (1000000000 / packetsPerSecond.toNat)⟩

lemma toNat_interval (p : BitVec 32) : (rateLimitConfig p).packetIntervalNs.toNat = 1000000000 / p.toNat := by
  have h : 1000000000 / p.toNat ≤ 1000000000 := Nat.div_le_self _ _
  rw [rateLimitConfig, BitVec.toNat_ofNat, Nat.mod_eq_of_lt (by omega)]

namespace RateLimit

def enableRatelimit (fds : RateFds) : SysProg Bool := setState fds.mapFdConfigState ConfigKey.RATELIMIT 1

def disableRatelimit (fds : RateFds) : SysProg Bool := setState fds.mapFdConfigState ConfigKey.RATELIMIT 0

def addRateLimit (fds : RateFds) (ip : Addr) (packetsPerSecond : BitVec 32) : SysProg Bool :=
  if packetsPerSecond = 0 then return false
  else do return updated (← sys (.updateRateLimits fds.mapFdRateLimits ip (rateLimitConfig packetsPerSecond)))

def removeRateLimit (fds : RateFds) (ip : Addr) : SysProg Bool := do
  return deleted (← sys (.deleteRateLimits fds.mapFdRateLimits ip))

def updateConfig (fds : RateFds) (message : Text) : SysProg Bool :=
  let (command, rest) := token message
  if command = ENABLED then enableRatelimit fds
  else if command = DISABLED then disableRatelimit fds
  else
    let (ipStr, rest) := token rest
    if ipStr = [] then return false
    else
      match inetPton ipStr with
      | none => return false
      | some ip =>
        if command = ADD then
          match extractUint32 rest with
          | none => return false
          | some packetsPerSecond =>
            if packetsPerSecond = 0 then return false else addRateLimit fds ip packetsPerSecond
        else if command = REMOVE then removeRateLimit fds ip
        else return false

end RateLimit

end PacketFilter.Config
