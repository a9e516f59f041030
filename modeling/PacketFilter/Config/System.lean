import PacketFilter.Kernel.Maps
import PacketFilter.Library.Scanning

/-! The bpf system calls of the configuration code, on the maps that hold the settings. -/

namespace PacketFilter.Config

open Library Library.Programs Library.Scanning Kernel

abbrev IPSubnet := BpfTrieKey

inductive SubnetList where
  | blacklist
  | whitelist
  deriving DecidableEq

inductive Kind where
  | subnets (l : SubnetList)
  | ratelimit
  deriving DecidableEq

/-- What the configuration code reports: a flag it set while loading, or a message it passed on,
with the answer it got. -/
inductive Note where
  | flag (kind : Kind) (on : Bool) (answer : Bool)
  | message (kind : Kind) (text : Text) (answer : Bool)
  deriving DecidableEq

inductive Errno where
  | EBADF
  | EINVAL
  | ENOSPC
  | E2BIG
  | ENOENT
  | ENOMEM
  deriving DecidableEq

inductive Sys where
  | updateConfigState (fd : ℤ) (key : BitVec 32) (value : BitVec 8)
  | updateSubnets (l : SubnetList) (fd : ℤ) (key : IPSubnet) (value : BitVec 8)
  | deleteSubnets (l : SubnetList) (fd : ℤ) (key : IPSubnet)
  | updateRateLimits (fd : ℤ) (ip : Addr) (config : IpRateLimit)
  | deleteRateLimits (fd : ℤ) (ip : Addr)
  | report (note : Note)

namespace Sys

def fd : Sys → ℤ
  | .updateConfigState fd _ _ | .updateSubnets _ fd _ _ | .deleteSubnets _ fd _
  | .updateRateLimits fd _ _ | .deleteRateLimits fd _ => fd
  | .report _ => 1

abbrev Result (_ : Sys) : Type := Except Errno Unit

end Sys

variable {N : ℕ}

/-- The prefix that a key of a subnet map stands for; bits after the prefix do not count. -/
def network? (key : IPSubnet) : Option (Network 32) :=
  if h : key.prefixlen.toNat ≤ 32 then some (.of key.prefixlen.toNat h key.ip) else none

def subnets (s : Settings N) : SubnetList → SubnetsMap N
  | .blacklist => s.blacklistSubnets
  | .whitelist => s.whitelistSubnets

def setSubnets (s : Settings N) (l : SubnetList) (t : SubnetsMap N) : Settings N :=
  match l with
  | .blacklist => { s with blacklistSubnets := t }
  | .whitelist => { s with whitelistSubnets := t }

def Sys.apply (s : Settings N) : Sys → Except Errno (Settings N)
  | .updateConfigState _ key value =>
      if h : key.toNat < 20 then
        .ok { s with configState := Function.update s.configState ⟨key.toNat, h⟩ value }
      else .error .E2BIG
  | .updateSubnets l _ key value =>
      match network? key with
      | none => .error .EINVAL
      | some net =>
        match (subnets s l).update net value with
        | none => .error .ENOSPC
        | some t => .ok (setSubnets s l t)
  | .deleteSubnets l _ key =>
      match network? key with
      | none => .error .EINVAL
      | some net =>
        if ((subnets s l).get? net).isSome then .ok (setSubnets s l ((subnets s l).erase net))
        else .error .ENOENT
  | .updateRateLimits _ ip config =>
      match s.ipRateLimits.update ip config with
      | none => .error .E2BIG
      | some t => .ok { s with ipRateLimits := t }
  | .deleteRateLimits _ ip =>
      if (s.ipRateLimits.get? ip).isSome then .ok { s with ipRateLimits := s.ipRateLimits.erase ip }
      else .error .ENOENT
  | .report _ => .ok s

structure Host (N : ℕ) where
  settings : Settings N
  calls : ℕ
  journal : List Note

/-- Which calls the kernel fails for want of memory or permission, whatever the maps would allow. -/
abbrev Faults (N : ℕ) := ℕ → Settings N → Sys → Bool

def Sys.exec (faults : Faults N) (op : Sys) (h : Host N) : op.Result × Host N :=
  match op with
  | .report note => (.ok (), { h with journal := h.journal ++ [note] })
  | op =>
    if op.fd < 0 then (.error .EBADF, { h with calls := h.calls + 1 })
    else if faults h.calls h.settings op then (.error .ENOMEM, { h with calls := h.calls + 1 })
    else
      match op.apply h.settings with
      | .error e => (.error e, { h with calls := h.calls + 1 })
      | .ok s => (.ok (), { h with settings := s, calls := h.calls + 1 })

abbrev SysProg := Prog Sys Sys.Result

abbrev sys (op : Sys) : SysProg (Except Errno Unit) := Prog.perform op

end PacketFilter.Config
