import PacketFilter.Library.Prefixes
import PacketFilter.Library.Programs

/-! The maps of packetfilter.bpf.c and the helper calls the filter makes on them. -/

namespace PacketFilter.Kernel

open Library Library.Programs

/-- Four bytes in network order, the first one most significant. -/
abbrev Addr := BitVec 32

def MAX_ENTRIES : ℕ := 1048576

def CONFIG_KEY_BLACKLIST : BitVec 32 := 0
def CONFIG_KEY_RATELIMIT : BitVec 32 := 1
def CONFIG_KEY_WHITELIST : BitVec 32 := 2

structure BpfTrieKey where
  prefixlen : BitVec 32
  ip : Addr
  deriving DecidableEq

structure PacketStats where
  dropped : BitVec 64
  passed : BitVec 64
  deriving DecidableEq

structure IpRateLimit where
  packetsPerSecond : BitVec 32
  packetIntervalNs : BitVec 64
  deriving DecidableEq

structure PacketTimestamp where
  lastTimestamp : BitVec 64
  deriving DecidableEq

structure PacketLogs where
  ip : Addr
  bytes : BitVec 32
  isPassed : BitVec 32
  deriving DecidableEq

inductive XdpAction where
  | drop
  | pass
  deriving DecidableEq

abbrev SubnetsMap (N : ℕ) := PrefixTable 32 (BitVec 8) N

def SubnetsMap.lookup {N : ℕ} (t : SubnetsMap N) (key : BpfTrieKey) : Option (BitVec 8) :=
  if h : key.prefixlen.toNat ≤ 32 then t.longestUpTo key.ip key.prefixlen.toNat h else none

def arrayLookup {n : ℕ} {ν : Type} (a : Fin n → ν) (key : BitVec 32) : Option ν :=
  if h : key.toNat < n then some (a ⟨key.toNat, h⟩) else none

def RINGBUF_SIZE : ℕ := 2 ^ 24

/-- Bytes of ring buffer taken by one record: the 12 of `PacketLogs` and a header of 8, rounded up to 8. -/
def RECORD_SIZE : ℕ := 24

structure Ringbuf where
  reserved : ℕ
  submitted : List PacketLogs
  consumed : ℕ

namespace Ringbuf

def empty : Ringbuf := ⟨0, [], 0⟩

def HasRoom (r : Ringbuf) : Prop := (r.reserved - r.consumed + 1) * RECORD_SIZE ≤ RINGBUF_SIZE - 1

instance (r : Ringbuf) : Decidable r.HasRoom := inferInstanceAs (Decidable (_ ≤ _))

def reserve (r : Ringbuf) : Ringbuf := { r with reserved := r.reserved + 1 }

def submit (r : Ringbuf) (log : PacketLogs) : Ringbuf := { r with submitted := r.submitted ++ [log] }

def consume (r : Ringbuf) (n : ℕ) : Ringbuf :=
  { r with consumed := min (r.consumed + n) r.submitted.length }

end Ringbuf

instance configSlots_neZero : NeZero 20 := ⟨by decide⟩

structure Settings (N : ℕ) where
  configState : Fin 20 → BitVec 8
  whitelistSubnets : SubnetsMap N
  blacklistSubnets : SubnetsMap N
  ipRateLimits : BoundedMap Addr IpRateLimit N

structure Maps (N : ℕ) where
  settings : Settings N
  ipStats : CellMap Addr PacketStats N
  globalStats : Fin 2 → BitVec 64
  ipTimestamps : CellMap Addr PacketTimestamp N
  packetRingbuf : Ringbuf

def Settings.zeroed {N : ℕ} : Settings N := ⟨fun _ => 0, .empty, .empty, .empty⟩

def Maps.zeroed {N : ℕ} : Maps N := ⟨.zeroed, .empty, fun _ => 0, .empty, .empty⟩

def PacketStats.add (s : PacketStats) : XdpAction → PacketStats
  | .drop => { s with dropped := s.dropped + 1 }
  | .pass => { s with passed := s.passed + 1 }

inductive Helper where
  | ktimeGetNs
  | ringbufReserve
  | ringbufSubmit (log : PacketLogs)
  | configStateLookup (key : BitVec 32)
  | whitelistLookup (key : BpfTrieKey)
  | blacklistLookup (key : BpfTrieKey)
  | rateLimitsLookup (ip : Addr)
  | ipStatsLookup (ip : Addr)
  | ipStatsUpdate (ip : Addr) (stats : PacketStats)
  | ipStatsAdd (p : ℕ) (action : XdpAction)
  | globalStatsLookup (key : BitVec 32)
  | globalStatsAdd (i : Fin 2)
  | timestampsLookup (ip : Addr)
  | timestampsUpdate (ip : Addr) (timestamp : PacketTimestamp)
  | timestampLoad (p : ℕ)
  | timestampStore (p : ℕ) (time : BitVec 64)

/-- What a call gives back. Values behind stable pointers are given as read, the others as cell addresses. -/
@[reducible] def Helper.Result : Helper → Type
  | .ktimeGetNs | .timestampLoad _ => BitVec 64
  | .ringbufReserve => Bool
  | .configStateLookup _ | .whitelistLookup _ | .blacklistLookup _ => Option (BitVec 8)
  | .rateLimitsLookup _ => Option IpRateLimit
  | .ipStatsLookup _ | .timestampsLookup _ => Option ℕ
  | .globalStatsLookup _ => Option (Fin 2)
  | .ringbufSubmit _ | .ipStatsUpdate _ _ | .ipStatsAdd _ _ | .globalStatsAdd _ |
    .timestampsUpdate _ _ | .timestampStore _ _ => Unit

abbrev BpfProg := Prog Helper Helper.Result

abbrev bpf (op : Helper) : BpfProg op.Result := Prog.perform op

/-- The clock reading of a call, and whether the ring buffer turns it away for a reason of its own. -/
structure Input where
  now : BitVec 64
  refused : Bool

variable {N : ℕ}

def exec (inp : Input) : (op : Helper) → Maps N → op.Result × Maps N
  | .ktimeGetNs, m => (inp.now, m)
  | .ringbufReserve, m =>
      if !inp.refused ∧ m.packetRingbuf.HasRoom then
        (true, { m with packetRingbuf := m.packetRingbuf.reserve })
      else (false, m)
  | .ringbufSubmit log, m => ((), { m with packetRingbuf := m.packetRingbuf.submit log })
  | .configStateLookup key, m => (arrayLookup m.settings.configState key, m)
  | .whitelistLookup key, m => (m.settings.whitelistSubnets.lookup key, m)
  | .blacklistLookup key, m => (m.settings.blacklistSubnets.lookup key, m)
  | .rateLimitsLookup ip, m => (m.settings.ipRateLimits.get? ip, m)
  | .ipStatsLookup ip, m => (m.ipStats.lookup ip, m)
  | .ipStatsUpdate ip stats, m => ((), { m with ipStats := m.ipStats.update ip stats })
  | .ipStatsAdd p action, m => ((), { m with ipStats := m.ipStats.modify p (·.add action) })
  | .globalStatsLookup key, m => (if h : key.toNat < 2 then some ⟨key.toNat, h⟩ else none, m)
  | .globalStatsAdd i, m =>
      ((), { m with globalStats := Function.update m.globalStats i (m.globalStats i + 1) })
  | .timestampsLookup ip, m => (m.ipTimestamps.lookup ip, m)
  | .timestampsUpdate ip timestamp, m => ((), { m with ipTimestamps := m.ipTimestamps.update ip timestamp })
  | .timestampLoad p, m => ((m.ipTimestamps.cells[p]?.getD ⟨0⟩).lastTimestamp, m)
  | .timestampStore p time, m => ((), { m with ipTimestamps := m.ipTimestamps.modify p (fun _ => ⟨time⟩) })

end PacketFilter.Kernel
