import PacketFilter.Kernel.Maps

/-! The XDP program of packetfilter.bpf.c. -/

namespace PacketFilter.Kernel

open Library Library.Programs

abbrev Frame := List (BitVec 8)

def ETH_P_IP : BitVec 16 := 0x0800

def ETHHDR_SIZE : ℕ := 14
def IPHDR_SIZE : ℕ := 20

namespace Frame

def byte (f : Frame) (i : ℕ) : BitVec 8 := f.getD i 0

def hProto (f : Frame) : BitVec 16 := f.byte 12 ++ f.byte 13

def saddr (f : Frame) : Addr := f.byte 26 ++ f.byte 27 ++ f.byte 28 ++ f.byte 29

end Frame

def isConfigEnabled (key : BitVec 32) : BpfProg Bool := do
  let state ← bpf (.configStateLookup key)
  return state = some 1#8

def XdpAction.statsKey : XdpAction → BitVec 32
  | .drop => 0
  | .pass => 1

def XdpAction.isPassed : XdpAction → BitVec 32
  | .drop => 0
  | .pass => 1

def addIpStats (action : XdpAction) : Option ℕ → BpfProg Unit
  | some p => bpf (.ipStatsAdd p action)
  | none => pure ()

def addGlobalStats : Option (Fin 2) → BpfProg Unit
  | some i => bpf (.globalStatsAdd i)
  | none => pure ()

def logAction (action : XdpAction) (log : PacketLogs) (ipStats : Option ℕ) : BpfProg Unit := do
  addIpStats action ipStats
  let count ← bpf (.globalStatsLookup action.statsKey)
  addGlobalStats count
  bpf (.ringbufSubmit { log with isPassed := action.isPassed })

def logDrop (log : PacketLogs) (ipStats : Option ℕ) : BpfProg Unit := logAction .drop log ipStats

def logPass (log : PacketLogs) (ipStats : Option ℕ) : BpfProg Unit := logAction .pass log ipStats

def dropPacket (log : PacketLogs) (ipStats : Option ℕ) : BpfProg XdpAction := do
  logDrop log ipStats
  return .drop

def passPacket (log : PacketLogs) (ipStats : Option ℕ) : BpfProg XdpAction := do
  logPass log ipStats
  return .pass

def ratelimitCheck (currentTime : BitVec 64) (log : PacketLogs) (ipStats : Option ℕ) : BpfProg XdpAction := do
  if ← isConfigEnabled CONFIG_KEY_RATELIMIT then
    match ← bpf (.rateLimitsLookup log.ip) with
    | none => passPacket log ipStats
    | some rateLimit =>
      match ← bpf (.timestampsLookup log.ip) with
      | none =>
        bpf (.timestampsUpdate log.ip ⟨currentTime⟩)
        passPacket log ipStats
      | some timestamp =>
        let lastTimestamp ← bpf (.timestampLoad timestamp)
        if currentTime - lastTimestamp < rateLimit.packetIntervalNs then
          dropPacket log ipStats
        else
          bpf (.timestampStore timestamp currentTime)
          passPacket log ipStats
  else
    passPacket log ipStats

def blacklistCheck (currentTime : BitVec 64) (log : PacketLogs) (ipStats : Option ℕ) : BpfProg XdpAction := do
  if ← isConfigEnabled CONFIG_KEY_BLACKLIST then
    match ← bpf (.blacklistLookup ⟨32#32, log.ip⟩) with
    | some _ => dropPacket log ipStats
    | none => ratelimitCheck currentTime log ipStats
  else
    ratelimitCheck currentTime log ipStats

def whitelistCheck (currentTime : BitVec 64) (log : PacketLogs) (ipStats : Option ℕ) : BpfProg XdpAction := do
  if ← isConfigEnabled CONFIG_KEY_WHITELIST then
    match ← bpf (.whitelistLookup ⟨32#32, log.ip⟩) with
    | none => dropPacket log ipStats
    | some _ => blacklistCheck currentTime log ipStats
  else
    blacklistCheck currentTime log ipStats

def getIpStats (srcIp : Addr) : BpfProg (Option ℕ) := do
  match ← bpf (.ipStatsLookup srcIp) with
  | some p => return some p
  | none =>
    bpf (.ipStatsUpdate srcIp ⟨0#64, 0#64⟩)
    bpf (.ipStatsLookup srcIp)

def Frame.log (f : Frame) : PacketLogs := ⟨f.saddr, BitVec.ofNat 32 f.length, 0⟩

def xdpFilter (frame : Frame) : BpfProg XdpAction := do
  let currentTime ← bpf .ktimeGetNs
  if frame.length < ETHHDR_SIZE then
    return .pass
  else if frame.hProto ≠ ETH_P_IP then
    return .pass
  else if frame.length < ETHHDR_SIZE + IPHDR_SIZE then
    return .pass
  else
    let log ← bpf .ringbufReserve
    if !log then
      return .pass
    else
      let ipStats ← getIpStats frame.saddr
      whitelistCheck currentTime frame.log ipStats

end PacketFilter.Kernel
