import PacketFilter.Config.Journal
import PacketFilter.Kernel.Runs

/-! The filter and its configuration together: what the history of commands makes of a frame. -/

namespace PacketFilter.Config

open Library Library.Programs Library.Scanning Library.History Kernel Prog

variable {N : ℕ}

structure System (N : ℕ) where
  maps : Maps N
  calls : ℕ
  journal : List Note
  configTypes : List ConfigType

inductive Happening where
  | line (text : Text)
  | packet (f : Frame) (inp : Input)
  | consume (n : ℕ)

namespace System

def host (s : System N) : Host N := ⟨s.maps.settings, s.calls, s.journal⟩

def withHost (s : System N) (h : Host N) : System N :=
  { s with maps := { s.maps with settings := h.settings }, calls := h.calls, journal := h.journal }

variable (faults : Faults N)

def load (mgr : MapFdManager) (files : Files) (m : Maps N) : System N :=
  let r := run (Sys.exec faults) (loadAllConfigs mgr files) ⟨m.settings, 0, []⟩
  ⟨{ m with settings := r.2.settings }, r.2.calls, r.2.journal, r.1⟩

def step (s : System N) : Happening → System N
  | .line text => s.withHost (run (Sys.exec faults) (processEventMessage s.configTypes text) s.host).2
  | .packet f inp => { s with maps := (run (exec inp) (xdpFilter f) s.maps).2 }
  | .consume n => { s with maps := { s.maps with packetRingbuf := s.maps.packetRingbuf.consume n } }

def runAll (s : System N) (hs : List Happening) : System N := hs.foldl (step faults) s

lemma host_packet (s : System N) (f : Frame) (inp : Input) : (s.step faults (.packet f inp)).host = s.host := by
  have hs := settings_step s.maps (.packet f inp)
  simp only [Kernel.step] at hs
  simp [step, host, hs]

lemma agrees_step {s : System N} (hs : s.host.Agrees) (e : Happening) : (s.step faults e).host.Agrees := by
  cases e with
  | line text => exact keeps_processEventMessage faults s.configTypes text s.host hs
  | packet f inp => rwa [host_packet]
  | consume n => exact hs

lemma agrees_runAll {s : System N} (hs : s.host.Agrees) (es : List Happening) :
    (s.runAll faults es).host.Agrees := by
  induction es generalizing s with
  | nil => exact hs
  | cons e es ih => exact ih (agrees_step faults hs e)

lemma agrees_load (mgr : MapFdManager) (files : Files) {m : Maps N} (hm : m.settings = .zeroed) :
    (load faults mgr files m).host.Agrees := by
  apply keeps_loadAllConfigs faults mgr files ⟨m.settings, 0, []⟩
  rw [Host.Agrees, hm]
  exact view_zeroed

end System

lemma enabled_iff {h : Host N} (hh : h.Agrees) (kind : Kind) (key : BitVec 32) (hk : key.toNat = kind.slot) :
    h.settings.Enabled key ↔ flagOf h.journal kind := by
  have hlt : key.toNat < 20 := hk ▸ kind.slot.isLt
  have hs : (⟨key.toNat, hlt⟩ : Fin 20) = kind.slot := Fin.ext hk
  have hv : h.settings.configState kind.slot = if flagOf h.journal kind then 1 else 0 :=
    (congrFun (congrArg View.configState hh) kind.slot).trans (replay_flag _ kind)
  rw [Settings.Enabled, arrayLookup, dif_pos hlt, hs, hv]
  cases flagOf h.journal kind <;> simp

lemma lookup_isSome_iff {h : Host N} (hh : h.Agrees) (l : SubnetList) (a : Addr) :
    ((subnets h.settings l).lookup ⟨32#32, a⟩).isSome ↔ ∃ net ∈ networks h.journal l, net.Contains a := by
  have hl : (subnets h.settings l).lookup ⟨32#32, a⟩ = PrefixTable.longest (subnets h.settings l) a := rfl
  rw [hl, PrefixTable.longest_isSome]
  apply exists_congr
  intro net
  have hv : (subnets h.settings l).get? net =
      if latest? (Command.onNet l net) (accepted h.journal) = some true then some 1 else none :=
    (congrFun (congrFun (congrArg View.nets hh) l) net).trans (replay_nets _ l net)
  rw [hv]
  simp [networks]

lemma limit_eq {h : Host N} (hh : h.Agrees) (a : Addr) : h.settings.ipRateLimits.get? a = limitOf h.journal a :=
  (congrFun (congrArg View.limits hh) a).trans (replay_limits _ a)

/-- The policy that a history of reports and the recorded timestamps give for a source address. -/
def PolicyDrops (journal : List Note) (timestamps : CellMap Addr PacketTimestamp N) (now : BitVec 64)
    (a : Addr) : Prop :=
  (flagOf journal (.subnets .whitelist) ∧ ¬ ∃ net ∈ networks journal .whitelist, net.Contains a) ∨
  (flagOf journal (.subnets .blacklist) ∧ ∃ net ∈ networks journal .blacklist, net.Contains a) ∨
  (flagOf journal .ratelimit ∧ ∃ limit, limitOf journal a = some limit ∧
    ∃ t, timestamps.get? a = some t ∧ now - t.lastTimestamp < limit.packetIntervalNs)

lemma drops_iff {m : Maps N} {calls : ℕ} {journal : List Note}
    (hh : (⟨m.settings, calls, journal⟩ : Host N).Agrees)
    (now : BitVec 64) (a : Addr) : m.Drops now a ↔ PolicyDrops journal m.ipTimestamps now a := by
  have hw := enabled_iff hh (.subnets .whitelist) CONFIG_KEY_WHITELIST rfl
  have hb := enabled_iff hh (.subnets .blacklist) CONFIG_KEY_BLACKLIST rfl
  have hr := enabled_iff hh .ratelimit CONFIG_KEY_RATELIMIT rfl
  have hW := lookup_isSome_iff hh .whitelist a
  have hB := lookup_isSome_iff hh .blacklist a
  have hl := limit_eq hh a
  refine or_congr ?_ (or_congr ?_ ?_)
  · rw [Settings.WhitelistDrops, hw, ← hW]
    simp [subnets]
  · rw [Settings.BlacklistDrops, hb, ← hB]
    rfl
  · simp only [Maps.RatelimitDrops, Settings.limitInForce, Option.mem_def]
    by_cases he : m.settings.Enabled CONFIG_KEY_RATELIMIT
    · simp [he, hr.mp he, ← hl]
    · have hf : ¬ flagOf journal .ratelimit := fun h => he (hr.mpr h)
      simp [he, hf]

theorem xdpFilter_drop_iff_policy (faults : Faults N) (mgr : MapFdManager) (files : Files) (m : Maps N)
    (hm : m.settings = .zeroed) (hs : List Happening) (f : Frame) (inp : Input)
    (hslot : ((System.load faults mgr files m).runAll faults hs).maps.HasSlot inp) :
    let s := (System.load faults mgr files m).runAll faults hs
    (run (exec inp) (xdpFilter f) s.maps).1 = .drop ↔
      34 ≤ f.length ∧ f.hProto = 0x0800#16 ∧ PolicyDrops s.journal s.maps.ipTimestamps inp.now f.saddr := by
  intro s
  have hh : s.host.Agrees := System.agrees_runAll faults (System.agrees_load faults mgr files hm) hs
  rw [run_xdpFilter, ← drops_iff hh]
  by_cases hf : f.IsIpv4
  · rw [if_pos ⟨hf, hslot⟩, Maps.verdict_eq_drop]
    exact ⟨fun h => ⟨hf.1, hf.2, h⟩, fun h => h.2.2⟩
  · rw [if_neg (fun h => hf h.1)]
    constructor
    · intro h
      cases h
    · exact fun h => absurd ⟨h.1, h.2.1⟩ hf

def relistedSystem : System 8 :=
  (System.load (fun _ _ _ => false) ⟨fun _ => 3⟩ ⟨some "10.0.0.0/8".toList, none, none⟩ .zeroed).runAll
    (fun _ _ _ => false) [.line "blacklist: remove 10.0.0.7/8".toList, .line "blacklist:add 10.0.0.0/31".toList]

theorem xdpFilter_drop_relisted :
    relistedSystem.maps.HasSlot ⟨5#64, false⟩ ∧
      PolicyDrops relistedSystem.journal relistedSystem.maps.ipTimestamps 5#64 0x0A000001#32 ∧
      ¬ PolicyDrops relistedSystem.journal relistedSystem.maps.ipTimestamps 5#64 0x0A000002#32 := by
  have hslot : relistedSystem.maps.HasSlot ⟨5#64, false⟩ := by decide +kernel
  have hpolicy (f : Frame) := xdpFilter_drop_iff_policy (fun _ _ _ => false) ⟨fun _ => 3⟩
    ⟨some "10.0.0.0/8".toList, none, none⟩ Maps.zeroed rfl
    [.line "blacklist: remove 10.0.0.7/8".toList, .line "blacklist:add 10.0.0.0/31".toList] f ⟨5#64, false⟩ hslot
  refine ⟨hslot, ((hpolicy (.source 0x0A000001#32)).mp (by decide +kernel)).2.2, fun hd => ?_⟩
  have hv := (hpolicy (.source 0x0A000002#32)).mpr ⟨by decide, by decide, hd⟩
  revert hv
  decide +kernel

end PacketFilter.Config
