import PacketFilter.Kernel.Filter
import PacketFilter.Library.Bytes

/-! What one undisturbed call of the filter decides and leaves behind. -/

namespace PacketFilter.Kernel

open Library Library.Programs Prog

variable {N : ℕ}

def Frame.IsIpv4 (f : Frame) : Prop := ETHHDR_SIZE + IPHDR_SIZE ≤ f.length ∧ f.hProto = ETH_P_IP

instance (f : Frame) : Decidable f.IsIpv4 := inferInstanceAs (Decidable (_ ∧ _))

def Frame.source (a : Addr) : Frame :=
  List.replicate 12 0 ++ [0x08, 0x00] ++ List.replicate 12 0 ++
    [a.extractLsb' 24 8, a.extractLsb' 16 8, a.extractLsb' 8 8, a.extractLsb' 0 8] ++ List.replicate 4 0

lemma Frame.source_isIpv4 (a : Addr) : (Frame.source a).IsIpv4 := by
  refine ⟨le_rfl, ?_⟩
  change 0x08#8 ++ 0x00#8 = 0x0800#16
  decide

lemma Frame.source_saddr (a : Addr) : (Frame.source a).saddr = a := by
  change a.extractLsb' 24 8 ++ a.extractLsb' 16 8 ++ a.extractLsb' 8 8 ++ a.extractLsb' 0 8 = a
  exact Bytes.joined_eq a

namespace Settings

def Enabled (s : Settings N) (key : BitVec 32) : Prop := arrayLookup s.configState key = some 1#8

instance (s : Settings N) (key : BitVec 32) : Decidable (s.Enabled key) := inferInstanceAs (Decidable (_ = _))

def WhitelistDrops (s : Settings N) (a : Addr) : Prop :=
  s.Enabled CONFIG_KEY_WHITELIST ∧ s.whitelistSubnets.lookup ⟨32#32, a⟩ = none

def BlacklistDrops (s : Settings N) (a : Addr) : Prop :=
  s.Enabled CONFIG_KEY_BLACKLIST ∧ (s.blacklistSubnets.lookup ⟨32#32, a⟩).isSome

def limitInForce (s : Settings N) (a : Addr) : Option IpRateLimit :=
  if s.Enabled CONFIG_KEY_RATELIMIT then s.ipRateLimits.get? a else none

instance (s : Settings N) (a : Addr) : Decidable (s.WhitelistDrops a) := inferInstanceAs (Decidable (_ ∧ _))

instance (s : Settings N) (a : Addr) : Decidable (s.BlacklistDrops a) := inferInstanceAs (Decidable (_ ∧ _))

end Settings

namespace Maps

def RatelimitDrops (m : Maps N) (now : BitVec 64) (a : Addr) : Prop :=
  ∃ limit ∈ m.settings.limitInForce a, ∃ t ∈ m.ipTimestamps.get? a,
    now - t.lastTimestamp < limit.packetIntervalNs

instance (m : Maps N) (now : BitVec 64) (a : Addr) : Decidable (m.RatelimitDrops now a) :=
  inferInstanceAs (Decidable (∃ limit ∈ _, ∃ t ∈ _, _))

def Drops (m : Maps N) (now : BitVec 64) (a : Addr) : Prop :=
  m.settings.WhitelistDrops a ∨ m.settings.BlacklistDrops a ∨ m.RatelimitDrops now a

instance (m : Maps N) (now : BitVec 64) (a : Addr) : Decidable (m.Drops now a) :=
  inferInstanceAs (Decidable (_ ∨ _ ∨ _))

def verdict (m : Maps N) (now : BitVec 64) (a : Addr) : XdpAction := if m.Drops now a then .drop else .pass

lemma verdict_eq_drop (m : Maps N) (now : BitVec 64) (a : Addr) : m.verdict now a = .drop ↔ m.Drops now a := by
  by_cases hd : m.Drops now a <;> simp [verdict, hd]

def HasSlot (m : Maps N) (inp : Input) : Prop := !inp.refused ∧ m.packetRingbuf.HasRoom

instance (m : Maps N) (inp : Input) : Decidable (m.HasSlot inp) := inferInstanceAs (Decidable (_ ∧ _))

def stamped (m : Maps N) (now : BitVec 64) (a : Addr) : CellMap Addr PacketTimestamp N :=
  if (m.settings.limitInForce a).isSome then m.ipTimestamps.put a ⟨now⟩ else m.ipTimestamps

end Maps

def XdpAction.index : XdpAction → Fin 2
  | .drop => 0
  | .pass => 1

namespace Maps

def logged (m : Maps N) (action : XdpAction) (log : PacketLogs) (ipStats : Option ℕ) : Maps N :=
  { m with
    ipStats := ipStats.elim m.ipStats (fun p => m.ipStats.modify p (·.add action))
    globalStats := Function.update m.globalStats action.index (m.globalStats action.index + 1)
    packetRingbuf := m.packetRingbuf.submit { log with isPassed := action.isPassed } }

def filtered (m : Maps N) (f : Frame) (now : BitVec 64) : Maps N where
  settings := m.settings
  ipStats := (m.ipStats.ensure f.saddr ⟨0#64, 0#64⟩).adjust f.saddr (·.add (m.verdict now f.saddr))
  globalStats := Function.update m.globalStats (m.verdict now f.saddr).index
    (m.globalStats (m.verdict now f.saddr).index + 1)
  ipTimestamps := if m.Drops now f.saddr then m.ipTimestamps else m.stamped now f.saddr
  packetRingbuf := m.packetRingbuf.reserve.submit { f.log with isPassed := (m.verdict now f.saddr).isPassed }

end Maps

section Run

variable (inp : Input) (m : Maps N)

lemma run_isConfigEnabled {α : Type} (key : BitVec 32) (k : Bool → BpfProg α) :
    run (exec inp) (isConfigEnabled key >>= k) m = run (exec inp) (k (decide (m.settings.Enabled key))) m := rfl

lemma run_logAction (action : XdpAction) (log : PacketLogs) (ipStats : Option ℕ) :
    run (exec inp) (logAction action log ipStats) m = ((), m.logged action log ipStats) := by
  cases action <;> cases ipStats <;> rfl

lemma run_dropPacket (log : PacketLogs) (ipStats : Option ℕ) :
    run (exec inp) (dropPacket log ipStats) m = (.drop, m.logged .drop log ipStats) := by
  rw [dropPacket, logDrop, run_bind, run_logAction]
  rfl

lemma run_passPacket (log : PacketLogs) (ipStats : Option ℕ) :
    run (exec inp) (passPacket log ipStats) m = (.pass, m.logged .pass log ipStats) := by
  rw [passPacket, logPass, run_bind, run_logAction]
  rfl

lemma run_ratelimitCheck (log : PacketLogs) (ipStats : Option ℕ) :
    run (exec inp) (ratelimitCheck inp.now log ipStats) m =
      if m.RatelimitDrops inp.now log.ip then (.drop, m.logged .drop log ipStats)
      else (.pass, { m with ipTimestamps := m.stamped inp.now log.ip }.logged .pass log ipStats) := by
  rw [ratelimitCheck, run_isConfigEnabled]
  by_cases he : m.settings.Enabled CONFIG_KEY_RATELIMIT
  · simp only [he, decide_true, if_true, bpf, perform_bind, run_call, exec]
    cases hl : m.settings.ipRateLimits.get? log.ip with
    | none => simp [run_passPacket, Maps.RatelimitDrops, Maps.stamped, Settings.limitInForce, he, hl]
    | some limit =>
      simp only [run_call, exec]
      cases ht : m.ipTimestamps.lookup log.ip with
      | none =>
        have hg := (m.ipTimestamps.get?_eq_none log.ip).mpr ht
        simp [run_passPacket, exec, Maps.RatelimitDrops, Maps.stamped, Settings.limitInForce, he, hl, hg,
          CellMap.put, ht]
      | some p =>
        obtain ⟨t, hp⟩ : ∃ t, m.ipTimestamps.cells[p]? = some t :=
          ⟨_, List.getElem?_eq_getElem (m.ipTimestamps.bounded log.ip p ht)⟩
        have hg := CellMap.get?_of_lookup ht
        rw [hp] at hg
        simp only [run_call, exec, hp, Option.getD_some]
        by_cases hd : inp.now - t.lastTimestamp < limit.packetIntervalNs
        · simp [run_dropPacket, Maps.RatelimitDrops, Settings.limitInForce, he, hl, hg, hd]
        · simp [run_passPacket, exec, Maps.RatelimitDrops, Maps.stamped, Settings.limitInForce, he, hl, hg, hd,
            CellMap.put, ht]
  · simp [run_passPacket, Maps.RatelimitDrops, Maps.stamped, Settings.limitInForce, he]

lemma run_blacklistCheck (log : PacketLogs) (ipStats : Option ℕ) :
    run (exec inp) (blacklistCheck inp.now log ipStats) m =
      if m.settings.BlacklistDrops log.ip then (.drop, m.logged .drop log ipStats)
      else run (exec inp) (ratelimitCheck inp.now log ipStats) m := by
  rw [blacklistCheck, run_isConfigEnabled]
  by_cases he : m.settings.Enabled CONFIG_KEY_BLACKLIST
  · simp only [he, decide_true, if_true, bpf, perform_bind, run_call, exec]
    cases hl : m.settings.blacklistSubnets.lookup ⟨32#32, log.ip⟩ <;>
      simp [run_dropPacket, Settings.BlacklistDrops, he, hl]
  · simp [Settings.BlacklistDrops, he]

lemma run_whitelistCheck (log : PacketLogs) (ipStats : Option ℕ) :
    run (exec inp) (whitelistCheck inp.now log ipStats) m =
      if m.settings.WhitelistDrops log.ip then (.drop, m.logged .drop log ipStats)
      else run (exec inp) (blacklistCheck inp.now log ipStats) m := by
  rw [whitelistCheck, run_isConfigEnabled]
  by_cases he : m.settings.Enabled CONFIG_KEY_WHITELIST
  · simp only [he, decide_true, if_true, bpf, perform_bind, run_call, exec]
    cases hl : m.settings.whitelistSubnets.lookup ⟨32#32, log.ip⟩ <;>
      simp [run_dropPacket, Settings.WhitelistDrops, he, hl]
  · simp [Settings.WhitelistDrops, he]

lemma run_checks (log : PacketLogs) (ipStats : Option ℕ) :
    run (exec inp) (whitelistCheck inp.now log ipStats) m =
      if m.Drops inp.now log.ip then (.drop, m.logged .drop log ipStats)
      else (.pass, { m with ipTimestamps := m.stamped inp.now log.ip }.logged .pass log ipStats) := by
  rw [run_whitelistCheck, run_blacklistCheck, run_ratelimitCheck]
  by_cases hw : m.settings.WhitelistDrops log.ip
  · have hd : m.Drops inp.now log.ip := Or.inl hw
    rw [if_pos hw, if_pos hd]
  · by_cases hb : m.settings.BlacklistDrops log.ip
    · have hd : m.Drops inp.now log.ip := Or.inr (Or.inl hb)
      rw [if_neg hw, if_pos hb, if_pos hd]
    · by_cases hr : m.RatelimitDrops inp.now log.ip
      · have hd : m.Drops inp.now log.ip := Or.inr (Or.inr hr)
        rw [if_neg hw, if_neg hb, if_pos hr, if_pos hd]
      · have hd : ¬ m.Drops inp.now log.ip := by simp [Maps.Drops, hw, hb, hr]
        rw [if_neg hw, if_neg hb, if_neg hr, if_neg hd]

lemma run_getIpStats (a : Addr) :
    run (exec inp) (getIpStats a) m =
      ((m.ipStats.ensure a ⟨0#64, 0#64⟩).lookup a, { m with ipStats := m.ipStats.ensure a ⟨0#64, 0#64⟩ }) := by
  simp only [getIpStats, bpf, perform_bind, run_call, exec]
  cases hl : m.ipStats.lookup a with
  | some p => simp [CellMap.ensure, hl]
  | none => simp [CellMap.ensure, hl, perform, exec]

lemma exec_reserve_slot (h : m.HasSlot inp) :
    exec inp .ringbufReserve m = (true, { m with packetRingbuf := m.packetRingbuf.reserve }) :=
  if_pos h

lemma exec_reserve_noSlot (h : ¬ m.HasSlot inp) : exec inp .ringbufReserve m = (false, m) :=
  if_neg h

lemma adjust_logged (a : Addr) (action : XdpAction) (log : PacketLogs) :
    (m.logged action log (m.ipStats.lookup a)).ipStats = m.ipStats.adjust a (·.add action) := by
  cases hl : m.ipStats.lookup a <;> simp [Maps.logged, CellMap.adjust, hl]

lemma run_reserved (f : Frame) :
    run (exec inp) (getIpStats f.saddr >>= whitelistCheck inp.now f.log)
      { m with packetRingbuf := m.packetRingbuf.reserve } =
      (m.verdict inp.now f.saddr, m.filtered f inp.now) := by
  rw [run_bind, run_getIpStats]
  let m' : Maps N :=
    { m with packetRingbuf := m.packetRingbuf.reserve, ipStats := m.ipStats.ensure f.saddr ⟨0#64, 0#64⟩ }
  refine (run_checks inp m' f.log (m'.ipStats.lookup f.saddr)).trans ?_
  by_cases hd : m.Drops inp.now f.saddr
  · have hv : m.verdict inp.now f.saddr = .drop := if_pos hd
    have hs := adjust_logged m' f.saddr .drop f.log
    refine (if_pos hd).trans ?_
    rw [Maps.filtered, hv, if_pos hd, ← hs]
    rfl
  · have hv : m.verdict inp.now f.saddr = .pass := if_neg hd
    have hs := adjust_logged m' f.saddr .pass f.log
    refine (if_neg hd).trans ?_
    rw [Maps.filtered, hv, if_neg hd, ← hs]
    rfl

end Run

lemma run_xdpFilter (inp : Input) (f : Frame) (m : Maps N) :
    run (exec inp) (xdpFilter f) m =
      if f.IsIpv4 ∧ m.HasSlot inp then (m.verdict inp.now f.saddr, m.filtered f inp.now) else (.pass, m) := by
  by_cases hf : f.IsIpv4
  · obtain ⟨hl, hp⟩ := hf
    have h1 : ¬ f.length < ETHHDR_SIZE := by omega
    have h2 : ¬ f.length < ETHHDR_SIZE + IPHDR_SIZE := by omega
    have hx : run (exec inp) (xdpFilter f) m =
        run (exec inp) (if !(exec inp .ringbufReserve m).1 then ret .pass
          else getIpStats f.saddr >>= whitelistCheck inp.now f.log) (exec inp .ringbufReserve m).2 := by
      simp only [xdpFilter, bpf, perform_bind, run_call, h1, h2, hp, ne_eq, not_true_eq_false, if_false]
      rfl
    by_cases hs : m.HasSlot inp
    · rw [hx, exec_reserve_slot inp m hs]
      exact (run_reserved inp m f).trans (if_pos ⟨⟨hl, hp⟩, hs⟩).symm
    · have hn : ¬ (f.IsIpv4 ∧ m.HasSlot inp) := fun h => hs h.2
      rw [hx, exec_reserve_noSlot inp m hs, if_neg hn]
      rfl
  · rw [if_neg (fun h => hf h.1)]
    simp only [Frame.IsIpv4, not_and_or, not_le] at hf
    simp only [xdpFilter, bpf, perform_bind, run_call]
    split_ifs with h1 h2 h3
    · rfl
    · rfl
    · rfl
    · exact absurd (not_not.mp h2) (hf.resolve_left h3)

end PacketFilter.Kernel
