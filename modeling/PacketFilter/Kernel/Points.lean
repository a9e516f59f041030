import PacketFilter.Kernel.Verdicts

/-! The filter one helper call at a time: the points it can be at, and how it moves between them. -/

namespace PacketFilter.Kernel

open Library Library.Programs Prog

variable {N : ℕ}

inductive Point where
  | start
  | reserve (now : BitVec 64)
  | statsLookup (now : BitVec 64)
  | statsCreate (now : BitVec 64)
  | statsAgain (now : BitVec 64)
  | whitelistFlag (now : BitVec 64) (stats : Option ℕ)
  | whitelistMatch (now : BitVec 64) (stats : Option ℕ)
  | blacklistFlag (now : BitVec 64) (stats : Option ℕ)
  | blacklistMatch (now : BitVec 64) (stats : Option ℕ)
  | ratelimitFlag (now : BitVec 64) (stats : Option ℕ)
  | limitLookup (now : BitVec 64) (stats : Option ℕ)
  | timestampLookup (now : BitVec 64) (stats : Option ℕ) (limit : IpRateLimit)
  | timestampCreate (now : BitVec 64) (stats : Option ℕ)
  | timestampLoad (now : BitVec 64) (stats : Option ℕ) (limit : IpRateLimit) (p : ℕ)
  | timestampStore (now : BitVec 64) (stats : Option ℕ) (p : ℕ)
  | countIp (p : ℕ) (action : XdpAction)
  | globalLookup (action : XdpAction)
  | globalAdd (action : XdpAction) (i : Fin 2)
  | submit (action : XdpAction)
  | logged (action : XdpAction)
  | skipped
  deriving DecidableEq

namespace Point

def log (action : XdpAction) : Option ℕ → Point
  | some p => .countIp p action
  | none => .globalLookup action

def submitted (log : PacketLogs) (action : XdpAction) : BpfProg XdpAction := do
  bpf (.ringbufSubmit { log with isPassed := action.isPassed })
  return action

def counted (log : PacketLogs) (action : XdpAction) : BpfProg XdpAction := do
  let count ← bpf (.globalStatsLookup action.statsKey)
  addGlobalStats count
  submitted log action

def created (now : BitVec 64) (log : PacketLogs) (stats : Option ℕ) : BpfProg XdpAction := do
  bpf (.timestampsUpdate log.ip ⟨now⟩)
  passPacket log stats

def stored (now : BitVec 64) (log : PacketLogs) (stats : Option ℕ) (p : ℕ) : BpfProg XdpAction := do
  bpf (.timestampStore p now)
  passPacket log stats

def compared (now : BitVec 64) (log : PacketLogs) (stats : Option ℕ) (limit : IpRateLimit) (p : ℕ) :
    BpfProg XdpAction := do
  let last ← bpf (.timestampLoad p)
  if now - last < limit.packetIntervalNs then dropPacket log stats else stored now log stats p

def limited (now : BitVec 64) (log : PacketLogs) (stats : Option ℕ) (limit : IpRateLimit) : BpfProg XdpAction := do
  match ← bpf (.timestampsLookup log.ip) with
  | none => created now log stats
  | some p => compared now log stats limit p

def code (f : Frame) : Point → BpfProg XdpAction
  | .start => xdpFilter f
  | .reserve now => do
      let log ← bpf .ringbufReserve
      if !log then return .pass
      else
        let stats ← getIpStats f.saddr
        whitelistCheck now f.log stats
  | .statsLookup now => do
      let stats ← getIpStats f.saddr
      whitelistCheck now f.log stats
  | .statsCreate now => do
      bpf (.ipStatsUpdate f.saddr ⟨0#64, 0#64⟩)
      let stats ← bpf (.ipStatsLookup f.saddr)
      whitelistCheck now f.log stats
  | .statsAgain now => do
      let stats ← bpf (.ipStatsLookup f.saddr)
      whitelistCheck now f.log stats
  | .whitelistFlag now stats => whitelistCheck now f.log stats
  | .whitelistMatch now stats => do
      match ← bpf (.whitelistLookup ⟨32#32, f.saddr⟩) with
      | none => dropPacket f.log stats
      | some _ => blacklistCheck now f.log stats
  | .blacklistFlag now stats => blacklistCheck now f.log stats
  | .blacklistMatch now stats => do
      match ← bpf (.blacklistLookup ⟨32#32, f.saddr⟩) with
      | some _ => dropPacket f.log stats
      | none => ratelimitCheck now f.log stats
  | .ratelimitFlag now stats => ratelimitCheck now f.log stats
  | .limitLookup now stats => do
      match ← bpf (.rateLimitsLookup f.saddr) with
      | none => passPacket f.log stats
      | some limit => limited now f.log stats limit
  | .timestampLookup now stats limit => limited now f.log stats limit
  | .timestampCreate now stats => created now f.log stats
  | .timestampLoad now stats limit p => compared now f.log stats limit p
  | .timestampStore now stats p => stored now f.log stats p
  | .countIp p action => do
      bpf (.ipStatsAdd p action)
      counted f.log action
  | .globalLookup action => counted f.log action
  | .globalAdd action i => do
      bpf (.globalStatsAdd i)
      submitted f.log action
  | .submit action => submitted f.log action
  | .logged action => return action
  | .skipped => return .pass

variable (inp : Input) (m : Maps N)

def perform (op : Helper) (next : op.Result → Point) : Option (Point × Maps N) :=
  some (next (exec inp op m).1, (exec inp op m).2)

def advance (f : Frame) : Point → Option (Point × Maps N)
  | .start => perform inp m .ktimeGetNs fun now => if f.IsIpv4 then .reserve now else .skipped
  | .reserve now => perform inp m .ringbufReserve fun log => if log then .statsLookup now else .skipped
  | .statsLookup now => perform inp m (.ipStatsLookup f.saddr) fun stats =>
      match stats with
      | some p => .whitelistFlag now (some p)
      | none => .statsCreate now
  | .statsCreate now => perform inp m (.ipStatsUpdate f.saddr ⟨0#64, 0#64⟩) fun _ => .statsAgain now
  | .statsAgain now => perform inp m (.ipStatsLookup f.saddr) fun stats => .whitelistFlag now stats
  | .whitelistFlag now stats => perform inp m (.configStateLookup CONFIG_KEY_WHITELIST) fun state =>
      if state = some 1#8 then .whitelistMatch now stats else .blacklistFlag now stats
  | .whitelistMatch now stats => perform inp m (.whitelistLookup ⟨32#32, f.saddr⟩) fun match? =>
      if match?.isSome then .blacklistFlag now stats else log .drop stats
  | .blacklistFlag now stats => perform inp m (.configStateLookup CONFIG_KEY_BLACKLIST) fun state =>
      if state = some 1#8 then .blacklistMatch now stats else .ratelimitFlag now stats
  | .blacklistMatch now stats => perform inp m (.blacklistLookup ⟨32#32, f.saddr⟩) fun match? =>
      if match?.isSome then log .drop stats else .ratelimitFlag now stats
  | .ratelimitFlag now stats => perform inp m (.configStateLookup CONFIG_KEY_RATELIMIT) fun state =>
      if state = some 1#8 then .limitLookup now stats else log .pass stats
  | .limitLookup now stats => perform inp m (.rateLimitsLookup f.saddr) fun limit =>
      match limit with
      | some limit => .timestampLookup now stats limit
      | none => log .pass stats
  | .timestampLookup now stats limit => perform inp m (.timestampsLookup f.saddr) fun timestamp =>
      match timestamp with
      | some p => .timestampLoad now stats limit p
      | none => .timestampCreate now stats
  | .timestampCreate now stats => perform inp m (.timestampsUpdate f.saddr ⟨now⟩) fun _ => log .pass stats
  | .timestampLoad now stats limit p => perform inp m (.timestampLoad p) fun last =>
      if now - last < limit.packetIntervalNs then log .drop stats else .timestampStore now stats p
  | .timestampStore now stats p => perform inp m (.timestampStore p now) fun _ => log .pass stats
  | .countIp p action => perform inp m (.ipStatsAdd p action) fun _ => .globalLookup action
  | .globalLookup action => perform inp m (.globalStatsLookup action.statsKey) fun count =>
      match count with
      | some i => .globalAdd action i
      | none => .submit action
  | .globalAdd action i => perform inp m (.globalStatsAdd i) fun _ => .submit action
  | .submit action =>
      perform inp m (.ringbufSubmit { f.log with isPassed := action.isPassed }) fun _ => .logged action
  | .logged _ => none
  | .skipped => none

lemma code_log (f : Frame) (action : XdpAction) (stats : Option ℕ) :
    code f (log action stats) = (logAction action f.log stats >>= fun _ => return action) := by
  simp only [logAction, prog_bind_assoc]
  cases stats <;> rfl

lemma code_drop (f : Frame) (stats : Option ℕ) : code f (log .drop stats) = dropPacket f.log stats :=
  code_log f .drop stats

lemma code_pass (f : Frame) (stats : Option ℕ) : code f (log .pass stats) = passPacket f.log stats :=
  code_log f .pass stats

lemma isConfigEnabled_bind (key : BitVec 32) (p q : BpfProg XdpAction) :
    (isConfigEnabled key >>= fun enabled => if enabled then p else q) =
      .call (.configStateLookup key) (fun state => if state = some 1#8 then p else q) := by
  simp only [isConfigEnabled, bpf, perform_bind, call_bind, pure_eq, ret_bind, decide_eq_true_eq]

lemma step_perform {op : Helper} {next : op.Result → Point} {p : BpfProg XdpAction}
    {k : op.Result → BpfProg XdpAction} {f : Frame} (hp : p = .call op k) (hk : ∀ r, code f (next r) = k r) :
    (perform inp m op next).map (fun r => (code f r.1, r.2)) = Prog.step (exec inp) p m := by
  rw [hp, perform, Option.map_some, Prog.step, hk]

lemma code_start (f : Frame) (now : BitVec 64) :
    code f (if f.IsIpv4 then .reserve now else .skipped) =
      (if f.length < ETHHDR_SIZE then return .pass
      else if f.hProto ≠ ETH_P_IP then return .pass
      else if f.length < ETHHDR_SIZE + IPHDR_SIZE then return .pass
      else code f (.reserve now)) := by
  by_cases hf : f.IsIpv4
  · obtain ⟨hl, hp⟩ := hf
    have h1 : ¬ f.length < ETHHDR_SIZE := by omega
    have h2 : ¬ f.length < ETHHDR_SIZE + IPHDR_SIZE := by omega
    rw [if_pos ⟨hl, hp⟩, if_neg h1, if_neg (not_not.mpr hp), if_neg h2]
  · rw [if_neg hf]
    simp only [Frame.IsIpv4, not_and_or, not_le] at hf
    split_ifs with h1 h2 h3
    · rfl
    · rfl
    · rfl
    · exact absurd (not_not.mp h2) (hf.resolve_left h3)

lemma code_advance (f : Frame) (pt : Point) :
    (advance inp m f pt).map (fun r => (code f r.1, r.2)) = Prog.step (exec inp) (code f pt) m := by
  cases pt with
  | logged action => rfl
  | skipped => rfl
  | start =>
    rw [advance]
    exact step_perform inp m rfl (code_start f)
  | reserve now =>
    rw [advance]
    refine step_perform inp m rfl ?_
    intro log
    cases log <;> rfl
  | statsLookup now =>
    rw [advance]
    refine step_perform inp m rfl ?_
    intro stats
    cases stats <;> rfl
  | whitelistFlag now stats =>
    rw [advance]
    refine step_perform inp m (isConfigEnabled_bind _ _ _) ?_
    intro state
    split_ifs
    · refine congrArg (call _) (funext fun found => ?_)
      cases found <;> rfl
    · rfl
  | whitelistMatch now stats =>
    rw [advance]
    refine step_perform inp m rfl ?_
    intro found
    cases found with
    | none => exact code_drop f stats
    | some _ => rfl
  | blacklistFlag now stats =>
    rw [advance]
    refine step_perform inp m (isConfigEnabled_bind _ _ _) ?_
    intro state
    split_ifs
    · refine congrArg (call _) (funext fun found => ?_)
      cases found <;> rfl
    · rfl
  | blacklistMatch now stats =>
    rw [advance]
    refine step_perform inp m rfl ?_
    intro found
    cases found with
    | none => rfl
    | some _ => exact code_drop f stats
  | ratelimitFlag now stats =>
    rw [advance]
    refine step_perform inp m (isConfigEnabled_bind _ _ _) ?_
    intro state
    split_ifs
    · refine congrArg (call _) (funext fun limit => ?_)
      cases limit with
      | none => rfl
      | some limit =>
        refine congrArg (call _) (funext fun timestamp => ?_)
        cases timestamp <;> rfl
    · exact code_pass f stats
  | limitLookup now stats =>
    rw [advance]
    refine step_perform inp m rfl ?_
    intro limit
    cases limit with
    | none => exact code_pass f stats
    | some limit => rfl
  | timestampLookup now stats limit =>
    rw [advance]
    refine step_perform inp m rfl ?_
    intro timestamp
    cases timestamp <;> rfl
  | timestampCreate now stats =>
    rw [advance]
    exact step_perform inp m rfl (fun _ => code_pass f stats)
  | timestampLoad now stats limit p =>
    rw [advance]
    refine step_perform inp m rfl ?_
    intro last
    by_cases hl : now - last < limit.packetIntervalNs
    · rw [if_pos hl]
      exact (code_drop f stats).trans (if_pos hl).symm
    · rw [if_neg hl]
      exact (if_neg hl).symm
  | timestampStore now stats p =>
    rw [advance]
    exact step_perform inp m rfl (fun _ => code_pass f stats)
  | globalLookup action =>
    rw [advance]
    refine step_perform inp m rfl ?_
    intro count
    cases count <;> rfl
  | _ =>
    rw [advance]
    exact step_perform inp m rfl (fun _ => rfl)

end Point

def Point.unchecked : Point → Option (BitVec 64 × Option ℕ)
  | .whitelistFlag now stats | .whitelistMatch now stats | .blacklistFlag now stats | .blacklistMatch now stats
  | .ratelimitFlag now stats | .limitLookup now stats => some (now, stats)
  | _ => none

inductive Advances (inp : Input) (m : Maps N) (f : Frame) : Point → Point → Maps N → Prop where
  | start : Advances inp m f .start (.reserve inp.now) m
  | notIpv4 : Advances inp m f .start .skipped m
  | reserve (now : BitVec 64) :
      Advances inp m f (.reserve now) (.statsLookup now) { m with packetRingbuf := m.packetRingbuf.reserve }
  | noSlot (now : BitVec 64) : Advances inp m f (.reserve now) .skipped m
  | statsFound (now : BitVec 64) {p : ℕ} (hl : m.ipStats.lookup f.saddr = some p) :
      Advances inp m f (.statsLookup now) (.whitelistFlag now (some p)) m
  | statsMissing (now : BitVec 64) : Advances inp m f (.statsLookup now) (.statsCreate now) m
  | statsCreate (now : BitVec 64) :
      Advances inp m f (.statsCreate now) (.statsAgain now)
        { m with ipStats := m.ipStats.update f.saddr ⟨0#64, 0#64⟩ }
  | statsAgain (now : BitVec 64) :
      Advances inp m f (.statsAgain now) (.whitelistFlag now (m.ipStats.lookup f.saddr)) m
  | onward {pt pt' : Point} {now : BitVec 64} {stats : Option ℕ} (hp : pt.unchecked = some (now, stats))
      (hp' : pt'.unchecked = some (now, stats)) : Advances inp m f pt pt' m
  | decided {pt : Point} {now : BitVec 64} {stats : Option ℕ} (hp : pt.unchecked = some (now, stats))
      (action : XdpAction) : Advances inp m f pt (.log action stats) m
  | limited (now : BitVec 64) (stats : Option ℕ) {limit : IpRateLimit}
      (hl : m.settings.ipRateLimits.get? f.saddr = some limit) :
      Advances inp m f (.limitLookup now stats) (.timestampLookup now stats limit) m
  | timestampFound (now : BitVec 64) (stats : Option ℕ) (limit : IpRateLimit) {p : ℕ}
      (hl : m.ipTimestamps.lookup f.saddr = some p) :
      Advances inp m f (.timestampLookup now stats limit) (.timestampLoad now stats limit p) m
  | timestampMissing (now : BitVec 64) (stats : Option ℕ) (limit : IpRateLimit)
      (hl : m.ipTimestamps.lookup f.saddr = none) :
      Advances inp m f (.timestampLookup now stats limit) (.timestampCreate now stats) m
  | timestampCreate (now : BitVec 64) (stats : Option ℕ) :
      Advances inp m f (.timestampCreate now stats) (.log .pass stats)
        { m with ipTimestamps := m.ipTimestamps.update f.saddr ⟨now⟩ }
  | tooSoon (now : BitVec 64) (stats : Option ℕ) (limit : IpRateLimit) (p : ℕ) :
      Advances inp m f (.timestampLoad now stats limit p) (.log .drop stats) m
  | inTime (now : BitVec 64) (stats : Option ℕ) (limit : IpRateLimit) (p : ℕ)
      (hd : ¬ now - (m.ipTimestamps.cells[p]?.getD ⟨0⟩).lastTimestamp < limit.packetIntervalNs) :
      Advances inp m f (.timestampLoad now stats limit p) (.timestampStore now stats p) m
  | timestampStore (now : BitVec 64) (stats : Option ℕ) (p : ℕ) :
      Advances inp m f (.timestampStore now stats p) (.log .pass stats)
        { m with ipTimestamps := m.ipTimestamps.modify p (fun _ => ⟨now⟩) }
  | countIp (p : ℕ) (action : XdpAction) :
      Advances inp m f (.countIp p action) (.globalLookup action)
        { m with ipStats := m.ipStats.modify p (·.add action) }
  | globalLookup (action : XdpAction) :
      Advances inp m f (.globalLookup action) (.globalAdd action action.index) m
  | globalAdd (action : XdpAction) (i : Fin 2) :
      Advances inp m f (.globalAdd action i) (.submit action)
        { m with globalStats := Function.update m.globalStats i (m.globalStats i + 1) }
  | submit (action : XdpAction) :
      Advances inp m f (.submit action) (.logged action)
        { m with packetRingbuf := m.packetRingbuf.submit { f.log with isPassed := action.isPassed } }

lemma advances_of_advance {inp : Input} {m m' : Maps N} {f : Frame} {pt pt' : Point}
    (h : Point.advance inp m f pt = some (pt', m')) : Advances inp m f pt pt' m' := by
  cases pt with
  | logged action => cases h
  | skipped => cases h
  | start =>
    obtain ⟨rfl, rfl⟩ := Prod.mk.inj (Option.some.inj h)
    split_ifs
    · exact .start
    · exact .notIpv4
  | reserve now =>
    obtain ⟨rfl, rfl⟩ := Prod.mk.inj (Option.some.inj h)
    by_cases hs : m.HasSlot inp
    · rw [exec_reserve_slot inp m hs]
      exact .reserve now
    · rw [exec_reserve_noSlot inp m hs]
      exact .noSlot now
  | statsLookup now =>
    obtain ⟨rfl, rfl⟩ := Prod.mk.inj (Option.some.inj h)
    cases hl : (exec inp (.ipStatsLookup f.saddr) m).1 with
    | none => exact .statsMissing now
    | some p => exact .statsFound now hl
  | statsCreate now =>
    obtain ⟨rfl, rfl⟩ := Prod.mk.inj (Option.some.inj h)
    exact .statsCreate now
  | statsAgain now =>
    obtain ⟨rfl, rfl⟩ := Prod.mk.inj (Option.some.inj h)
    exact .statsAgain now
  | whitelistFlag now stats =>
    obtain ⟨rfl, rfl⟩ := Prod.mk.inj (Option.some.inj h)
    beta_reduce
    split_ifs
    · exact .onward rfl rfl
    · exact .onward rfl rfl
  | whitelistMatch now stats =>
    obtain ⟨rfl, rfl⟩ := Prod.mk.inj (Option.some.inj h)
    beta_reduce
    split_ifs
    · exact .onward rfl rfl
    · exact .decided rfl .drop
  | blacklistFlag now stats =>
    obtain ⟨rfl, rfl⟩ := Prod.mk.inj (Option.some.inj h)
    beta_reduce
    split_ifs
    · exact .onward rfl rfl
    · exact .onward rfl rfl
  | blacklistMatch now stats =>
    obtain ⟨rfl, rfl⟩ := Prod.mk.inj (Option.some.inj h)
    beta_reduce
    split_ifs
    · exact .decided rfl .drop
    · exact .onward rfl rfl
  | ratelimitFlag now stats =>
    obtain ⟨rfl, rfl⟩ := Prod.mk.inj (Option.some.inj h)
    beta_reduce
    split_ifs
    · exact .onward rfl rfl
    · exact .decided rfl .pass
  | limitLookup now stats =>
    obtain ⟨rfl, rfl⟩ := Prod.mk.inj (Option.some.inj h)
    cases hl : (exec inp (.rateLimitsLookup f.saddr) m).1 with
    | none => exact .decided rfl .pass
    | some limit => exact .limited now stats hl
  | timestampLookup now stats limit =>
    obtain ⟨rfl, rfl⟩ := Prod.mk.inj (Option.some.inj h)
    cases hl : (exec inp (.timestampsLookup f.saddr) m).1 with
    | none => exact .timestampMissing now stats limit hl
    | some p => exact .timestampFound now stats limit hl
  | timestampCreate now stats =>
    obtain ⟨rfl, rfl⟩ := Prod.mk.inj (Option.some.inj h)
    exact .timestampCreate now stats
  | timestampLoad now stats limit p =>
    obtain ⟨rfl, rfl⟩ := Prod.mk.inj (Option.some.inj h)
    beta_reduce
    split_ifs with hd
    · exact .tooSoon now stats limit p
    · exact .inTime now stats limit p hd
  | timestampStore now stats p =>
    obtain ⟨rfl, rfl⟩ := Prod.mk.inj (Option.some.inj h)
    exact .timestampStore now stats p
  | countIp p action =>
    obtain ⟨rfl, rfl⟩ := Prod.mk.inj (Option.some.inj h)
    exact .countIp p action
  | globalLookup action =>
    obtain ⟨rfl, rfl⟩ := Prod.mk.inj (Option.some.inj h)
    cases action <;> exact .globalLookup _
  | globalAdd action i =>
    obtain ⟨rfl, rfl⟩ := Prod.mk.inj (Option.some.inj h)
    exact .globalAdd action i
  | submit action =>
    obtain ⟨rfl, rfl⟩ := Prod.mk.inj (Option.some.inj h)
    exact .submit action

end PacketFilter.Kernel
