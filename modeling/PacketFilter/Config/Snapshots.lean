import PacketFilter.Config.Atomicity
import PacketFilter.Kernel.Pool

/-! Packets that are judged while event lines change the settings. -/

namespace PacketFilter.Config

open Library Library.Programs Library.Machines Library.Scanning Kernel Prog

variable {n N : ℕ}

inductive Glance where
  | whitelistFlag
  | whitelistMatch
  | blacklistFlag
  | blacklistMatch
  | ratelimitFlag
  | limit
  deriving DecidableEq

def Glance.rank : Glance → ℕ
  | .whitelistFlag => 0
  | .whitelistMatch => 1
  | .blacklistFlag => 2
  | .blacklistMatch => 3
  | .ratelimitFlag => 4
  | .limit => 5

structure Sight where
  whitelistOn : Bool
  whitelisted : Bool
  blacklistOn : Bool
  blacklisted : Bool
  ratelimitOn : Bool
  limit : Option IpRateLimit
  deriving DecidableEq

def sight (s : Settings N) (a : Addr) : Sight where
  whitelistOn := s.Enabled CONFIG_KEY_WHITELIST
  whitelisted := (s.whitelistSubnets.lookup ⟨32#32, a⟩).isSome
  blacklistOn := s.Enabled CONFIG_KEY_BLACKLIST
  blacklisted := (s.blacklistSubnets.lookup ⟨32#32, a⟩).isSome
  ratelimitOn := s.Enabled CONFIG_KEY_RATELIMIT
  limit := s.ipRateLimits.get? a

namespace Sight

def Same (v w : Sight) : Glance → Prop
  | .whitelistFlag => v.whitelistOn = w.whitelistOn
  | .whitelistMatch => v.whitelisted = w.whitelisted
  | .blacklistFlag => v.blacklistOn = w.blacklistOn
  | .blacklistMatch => v.blacklisted = w.blacklisted
  | .ratelimitFlag => v.ratelimitOn = w.ratelimitOn
  | .limit => v.limit = w.limit

lemma same_refl (v : Sight) (g : Glance) : v.Same v g := by cases g <;> rfl

lemma Same.symm {v w : Sight} {g : Glance} (h : v.Same w g) : w.Same v g := by
  cases g <;> exact Eq.symm h

def Listed (v : Sight) : Prop := (v.whitelistOn ∧ ¬ v.whitelisted) ∨ (v.blacklistOn ∧ v.blacklisted)

instance (v : Sight) : Decidable v.Listed := inferInstanceAs (Decidable (_ ∨ _))

/-- The verdict on a packet that comes at `now` and finds `last` as the time of the packet before it. -/
def judge (v : Sight) (now : BitVec 64) (last : Option (BitVec 64)) : XdpAction :=
  if v.Listed then .drop
  else if v.ratelimitOn ∧ ∃ limit ∈ v.limit, ∃ t ∈ last, now - t < limit.packetIntervalNs then .drop
  else .pass

end Sight

lemma verdict_eq_judge (m : Maps N) (now : BitVec 64) (a : Addr) :
    m.verdict now a = (sight m.settings a).judge now
      ((m.ipTimestamps.get? a).map PacketTimestamp.lastTimestamp) := by
  have hdrops : m.Drops now a ↔ (sight m.settings a).Listed ∨ ((sight m.settings a).ratelimitOn ∧
      ∃ limit ∈ (sight m.settings a).limit,
        ∃ t ∈ (m.ipTimestamps.get? a).map PacketTimestamp.lastTimestamp, now - t < limit.packetIntervalNs) := by
    by_cases hr : m.settings.Enabled CONFIG_KEY_RATELIMIT <;>
      simp [Maps.Drops, Settings.WhitelistDrops, Settings.BlacklistDrops, Maps.RatelimitDrops,
        Settings.limitInForce,
        Sight.Listed, sight, hr, or_assoc]
  rw [Maps.verdict, Sight.judge]
  by_cases hl : (sight m.settings a).Listed
  · rw [if_pos (hdrops.mpr (.inl hl)), if_pos hl]
  · rw [if_neg hl]
    exact if_congr (hdrops.trans (or_iff_right hl)) rfl rfl

def taken : Point → ℕ
  | .start | .reserve _ | .statsLookup _ | .statsCreate _ | .statsAgain _ | .whitelistFlag _ _ => 0
  | .whitelistMatch _ _ => 1
  | .blacklistFlag _ _ => 2
  | .blacklistMatch _ _ => 3
  | .ratelimitFlag _ _ => 4
  | .limitLookup _ _ => 5
  | _ => 6

/-- What a call has read of the clock, and of the timestamp for its address if it came to look for one. -/
structure Readings where
  clock : Option (BitVec 64)
  stamp : Option (Option (BitVec 64))
  deriving DecidableEq

namespace Readings

def none : Readings := ⟨.none, .none⟩

def advance (r : Readings) (inp : Input) (m : Maps N) (f : Frame) : Point → Readings
  | .start => { r with clock := some (exec inp .ktimeGetNs m).1 }
  | .timestampLookup _ _ _ =>
      if (exec inp (.timestampsLookup f.saddr) m).1 = .none then { r with stamp := some .none } else r
  | .timestampLoad _ _ _ p => { r with stamp := some (some (exec inp (.timestampLoad p) m).1) }
  | _ => r

structure Found (r : Readings) (m : Maps N) (inp : Input) (a : Addr) : Prop where
  clock : r.clock = some inp.now
  stamp : ∀ last ∈ r.stamp, (m.ipTimestamps.get? a).map PacketTimestamp.lastTimestamp = last

end Readings

def Judged (v : Sight) (r : Readings) (action : XdpAction) : Prop :=
  ∃ now ∈ r.clock, ∀ last, (∀ found ∈ r.stamp, last = found) → v.judge now last = action

def Led (v : Sight) (r : Readings) : Point → Prop
  | .start => r = .none
  | .reserve now | .statsLookup now | .statsCreate now | .statsAgain now | .whitelistFlag now _ =>
      r = ⟨some now, none⟩
  | .whitelistMatch now _ => r = ⟨some now, none⟩ ∧ v.whitelistOn
  | .blacklistFlag now _ => r = ⟨some now, none⟩ ∧ ¬ (v.whitelistOn ∧ ¬ v.whitelisted)
  | .blacklistMatch now _ => r = ⟨some now, none⟩ ∧ ¬ (v.whitelistOn ∧ ¬ v.whitelisted) ∧ v.blacklistOn
  | .ratelimitFlag now _ => r = ⟨some now, none⟩ ∧ ¬ v.Listed
  | .limitLookup now _ => r = ⟨some now, none⟩ ∧ ¬ v.Listed ∧ v.ratelimitOn
  | .timestampLookup now _ limit | .timestampLoad now _ limit _ =>
      r = ⟨some now, none⟩ ∧ ¬ v.Listed ∧ v.ratelimitOn ∧ v.limit = some limit
  | .timestampCreate now _ => r = ⟨some now, some none⟩ ∧ v.judge now none = .pass
  | .timestampStore now _ _ => ∃ last, r = ⟨some now, some last⟩ ∧ v.judge now last = .pass
  | .countIp _ action | .globalLookup action | .globalAdd action _ | .submit action | .logged action =>
      Judged v r action
  | .skipped => True

lemma led_log {v : Sight} {r : Readings} {action : XdpAction} (stats : Option ℕ) (h : Judged v r action) :
    Led v r (.log action stats) := by
  cases stats <;> exact h

lemma taken_le_log (pt : Point) (action : XdpAction) (stats : Option ℕ) :
    taken pt ≤ taken (.log action stats) := by
  have hlog : taken (.log action stats) = 6 := by cases stats <;> rfl
  rw [hlog]
  cases pt <;> simp [taken]

lemma judge_listed {v : Sight} (h : v.Listed) (now : BitVec 64) (last : Option (BitVec 64)) :
    v.judge now last = .drop := if_pos h

lemma judge_unlimited {v : Sight} (h : ¬ v.Listed) (hr : ¬ (v.ratelimitOn ∧ v.limit.isSome)) (now : BitVec 64)
    (last : Option (BitVec 64)) : v.judge now last = .pass := by
  rw [Sight.judge, if_neg h, if_neg]
  rintro ⟨hon, limit, hlimit, -⟩
  exact hr ⟨hon, Option.isSome_of_mem hlimit⟩

lemma judge_limited {v : Sight} {limit : IpRateLimit} (h : ¬ v.Listed) (hr : v.ratelimitOn)
    (hl : v.limit = some limit) (now : BitVec 64) (last : Option (BitVec 64)) :
    v.judge now last = if ∃ t ∈ last, now - t < limit.packetIntervalNs then .drop else .pass := by
  rw [Sight.judge, if_neg h]
  simp [hr, hl]

lemma judged_listed {v : Sight} (h : v.Listed) (now : BitVec 64) : Judged v ⟨some now, none⟩ .drop :=
  ⟨now, rfl, fun last _ => judge_listed h now last⟩

lemma judged_unlimited {v : Sight} (h : ¬ v.Listed) (hr : ¬ (v.ratelimitOn ∧ v.limit.isSome)) (now : BitVec 64) :
    Judged v ⟨some now, none⟩ .pass :=
  ⟨now, rfl, fun last _ => judge_unlimited h hr now last⟩

lemma judged_found {v : Sight} {now : BitVec 64} {last : Option (BitVec 64)} {action : XdpAction}
    (h : v.judge now last = action) : Judged v ⟨some now, some last⟩ action := by
  refine ⟨now, rfl, fun last' hlast => ?_⟩
  rw [hlast last rfl, h]

def AgreeFrom (k : ℕ) (v w : Sight) : Prop := ∀ g : Glance, k ≤ g.rank → v.Same w g

lemma AgreeFrom.mono {k l : ℕ} {v w : Sight} (h : AgreeFrom k v w) (hkl : k ≤ l) : AgreeFrom l v w :=
  fun g hg => h g (hkl.trans hg)

section Advancing

variable {inp : Input} {m m' : Maps N} {f : Frame} {pt pt' : Point} {v : Sight} {r : Readings}

lemma ipv4_advance (hf : pt = .start ∨ f.IsIpv4) (h : Point.advance inp m f pt = some (pt', m')) :
    pt' = .skipped ∨ f.IsIpv4 := by
  rcases hf with rfl | hf
  · obtain ⟨rfl, -⟩ := Prod.mk.inj (Option.some.inj h)
    beta_reduce
    split_ifs with hf
    · exact .inr hf
    · exact .inl rfl
  · exact .inr hf

lemma led_advance (hv : AgreeFrom (taken pt) v (sight m.settings f.saddr)) (hled : Led v r pt)
    (h : Point.advance inp m f pt = some (pt', m')) : Led v (r.advance inp m f pt) pt' ∧ taken pt ≤ taken pt' := by
  cases pt with
  | logged action => cases h
  | skipped => cases h
  | start =>
    obtain ⟨rfl, rfl⟩ := Prod.mk.inj (Option.some.inj h)
    obtain rfl : r = .none := hled
    beta_reduce
    split_ifs
    · exact ⟨rfl, Nat.zero_le _⟩
    · exact ⟨trivial, Nat.zero_le _⟩
  | reserve now =>
    obtain ⟨rfl, rfl⟩ := Prod.mk.inj (Option.some.inj h)
    beta_reduce
    split_ifs
    · exact ⟨hled, Nat.zero_le _⟩
    · exact ⟨trivial, Nat.zero_le _⟩
  | statsLookup now =>
    obtain ⟨rfl, rfl⟩ := Prod.mk.inj (Option.some.inj h)
    beta_reduce
    split <;> exact ⟨hled, Nat.zero_le _⟩
  | statsCreate now =>
    obtain ⟨rfl, rfl⟩ := Prod.mk.inj (Option.some.inj h)
    exact ⟨hled, Nat.zero_le _⟩
  | statsAgain now =>
    obtain ⟨rfl, rfl⟩ := Prod.mk.inj (Option.some.inj h)
    exact ⟨hled, Nat.zero_le _⟩
  | whitelistFlag now stats =>
    obtain ⟨rfl, rfl⟩ := Prod.mk.inj (Option.some.inj h)
    have hflag : v.whitelistOn = decide (m.settings.Enabled CONFIG_KEY_WHITELIST) := hv .whitelistFlag le_rfl
    beta_reduce
    split_ifs with hon
    · exact ⟨⟨hled, hflag.trans (decide_eq_true hon)⟩, Nat.zero_le _⟩
    · have hoff : v.whitelistOn = false := hflag.trans (decide_eq_false hon)
      exact ⟨⟨hled, fun hd => by simp [hoff] at hd⟩, Nat.zero_le _⟩
  | whitelistMatch now stats =>
    obtain ⟨rfl, rfl⟩ := Prod.mk.inj (Option.some.inj h)
    obtain ⟨rfl, hon⟩ := hled
    have hmatch : v.whitelisted = (m.settings.whitelistSubnets.lookup ⟨32#32, f.saddr⟩).isSome :=
      hv .whitelistMatch le_rfl
    beta_reduce
    split_ifs with hfound
    · exact ⟨⟨rfl, fun hd => hd.2 (hmatch.trans hfound)⟩, by simp [taken]⟩
    · have hlisted : v.Listed := .inl ⟨hon, fun hw => hfound (hmatch.symm.trans hw)⟩
      exact ⟨led_log stats (judged_listed hlisted now), taken_le_log ..⟩
  | blacklistFlag now stats =>
    obtain ⟨rfl, rfl⟩ := Prod.mk.inj (Option.some.inj h)
    obtain ⟨rfl, hpassed⟩ := hled
    have hflag : v.blacklistOn = decide (m.settings.Enabled CONFIG_KEY_BLACKLIST) := hv .blacklistFlag le_rfl
    beta_reduce
    split_ifs with hon
    · exact ⟨⟨rfl, hpassed, hflag.trans (decide_eq_true hon)⟩, by simp [taken]⟩
    · have hoff : v.blacklistOn = false := hflag.trans (decide_eq_false hon)
      refine ⟨⟨rfl, ?_⟩, by simp [taken]⟩
      rintro (hd | ⟨hb, -⟩)
      · exact hpassed hd
      · simp [hoff] at hb
  | blacklistMatch now stats =>
    obtain ⟨rfl, rfl⟩ := Prod.mk.inj (Option.some.inj h)
    obtain ⟨rfl, hpassed, hon⟩ := hled
    have hmatch : v.blacklisted = (m.settings.blacklistSubnets.lookup ⟨32#32, f.saddr⟩).isSome :=
      hv .blacklistMatch le_rfl
    beta_reduce
    split_ifs with hfound
    · have hlisted : v.Listed := .inr ⟨hon, hmatch.trans hfound⟩
      exact ⟨led_log stats (judged_listed hlisted now), taken_le_log ..⟩
    · refine ⟨⟨rfl, ?_⟩, by simp [taken]⟩
      rintro (hd | ⟨-, hb⟩)
      · exact hpassed hd
      · exact hfound (hmatch.symm.trans hb)
  | ratelimitFlag now stats =>
    obtain ⟨rfl, rfl⟩ := Prod.mk.inj (Option.some.inj h)
    obtain ⟨rfl, hlisted⟩ := hled
    have hflag : v.ratelimitOn = decide (m.settings.Enabled CONFIG_KEY_RATELIMIT) := hv .ratelimitFlag le_rfl
    beta_reduce
    split_ifs with hon
    · exact ⟨⟨rfl, hlisted, hflag.trans (decide_eq_true hon)⟩, by simp [taken]⟩
    · have hoff : v.ratelimitOn = false := hflag.trans (decide_eq_false hon)
      exact ⟨led_log stats (judged_unlimited hlisted (by simp [hoff]) now), taken_le_log ..⟩
  | limitLookup now stats =>
    obtain ⟨rfl, rfl⟩ := Prod.mk.inj (Option.some.inj h)
    obtain ⟨rfl, hlisted, hon⟩ := hled
    have hlimit : v.limit = (exec inp (.rateLimitsLookup f.saddr) m).1 := hv .limit le_rfl
    cases hl : (exec inp (.rateLimitsLookup f.saddr) m).1 with
    | none =>
      rw [hl] at hlimit
      exact ⟨led_log stats (judged_unlimited hlisted (by simp [hlimit]) now), taken_le_log ..⟩
    | some limit => exact ⟨⟨rfl, hlisted, hon, hlimit.trans hl⟩, by simp [taken]⟩
  | timestampLookup now stats limit =>
    obtain ⟨rfl, rfl⟩ := Prod.mk.inj (Option.some.inj h)
    obtain ⟨rfl, hlisted, hon, hlimit⟩ := hled
    cases hl : (exec inp (.timestampsLookup f.saddr) m).1 with
    | none =>
      have hjudge := judge_limited hlisted hon hlimit now none
      simp only [Readings.advance, hl, if_true]
      exact ⟨⟨rfl, hjudge.trans (by simp)⟩, le_rfl⟩
    | some p =>
      simp only [Readings.advance, hl, reduceCtorEq, if_false]
      exact ⟨⟨rfl, hlisted, hon, hlimit⟩, le_rfl⟩
  | timestampCreate now stats =>
    obtain ⟨rfl, rfl⟩ := Prod.mk.inj (Option.some.inj h)
    obtain ⟨rfl, hjudge⟩ := hled
    exact ⟨led_log stats (judged_found hjudge), taken_le_log ..⟩
  | timestampLoad now stats limit p =>
    obtain ⟨rfl, rfl⟩ := Prod.mk.inj (Option.some.inj h)
    obtain ⟨rfl, hlisted, hon, hlimit⟩ := hled
    have hjudge := judge_limited hlisted hon hlimit now (some (exec inp (.timestampLoad p) m).1)
    simp only [Option.mem_def, Option.some.injEq, exists_eq_left'] at hjudge
    beta_reduce
    split_ifs with hsoon
    · exact ⟨led_log stats (judged_found (hjudge.trans (if_pos hsoon))), taken_le_log ..⟩
    · exact ⟨⟨_, rfl, hjudge.trans (if_neg hsoon)⟩, le_rfl⟩
  | timestampStore now stats p =>
    obtain ⟨rfl, rfl⟩ := Prod.mk.inj (Option.some.inj h)
    obtain ⟨last, rfl, hjudge⟩ := hled
    exact ⟨led_log stats (judged_found hjudge), taken_le_log ..⟩
  | countIp p action =>
    obtain ⟨rfl, rfl⟩ := Prod.mk.inj (Option.some.inj h)
    exact ⟨hled, le_rfl⟩
  | globalLookup action =>
    obtain ⟨rfl, rfl⟩ := Prod.mk.inj (Option.some.inj h)
    beta_reduce
    split <;> exact ⟨hled, le_rfl⟩
  | globalAdd action i =>
    obtain ⟨rfl, rfl⟩ := Prod.mk.inj (Option.some.inj h)
    exact ⟨hled, le_rfl⟩
  | submit action =>
    obtain ⟨rfl, rfl⟩ := Prod.mk.inj (Option.some.inj h)
    exact ⟨hled, le_rfl⟩

end Advancing

lemma led_congr {v w : Sight} {r : Readings} {pt : Point} (h : ∀ g : Glance, g.rank < taken pt → v.Same w g)
    (hled : Led v r pt) : Led w r pt := by
  have h0 (hk : 0 < taken pt) : v.whitelistOn = w.whitelistOn := h .whitelistFlag hk
  have h1 (hk : 1 < taken pt) : v.whitelisted = w.whitelisted := h .whitelistMatch hk
  have h2 (hk : 2 < taken pt) : v.blacklistOn = w.blacklistOn := h .blacklistFlag hk
  have h3 (hk : 3 < taken pt) : v.blacklisted = w.blacklisted := h .blacklistMatch hk
  have h4 (hk : 4 < taken pt) : v.ratelimitOn = w.ratelimitOn := h .ratelimitFlag hk
  have h5 (hk : 5 < taken pt) : v.limit = w.limit := h .limit hk
  have hall (hpt : taken pt = 6) : v = w := by
    cases v
    cases w
    simp_all
  cases pt with
  | start => exact hled
  | reserve now => exact hled
  | statsLookup now => exact hled
  | statsCreate now => exact hled
  | statsAgain now => exact hled
  | whitelistFlag now stats => exact hled
  | whitelistMatch now stats => simpa only [Led, h0 (by simp [taken])] using hled
  | blacklistFlag now stats => simpa only [Led, h0 (by simp [taken]), h1 (by simp [taken])] using hled
  | blacklistMatch now stats =>
    simpa only [Led, h0 (by simp [taken]), h1 (by simp [taken]), h2 (by simp [taken])] using hled
  | ratelimitFlag now stats =>
    simpa only [Led, Sight.Listed, h0 (by simp [taken]), h1 (by simp [taken]), h2 (by simp [taken]),
      h3 (by simp [taken])] using hled
  | limitLookup now stats =>
    simpa only [Led, Sight.Listed, h0 (by simp [taken]), h1 (by simp [taken]), h2 (by simp [taken]),
      h3 (by simp [taken]), h4 (by simp [taken])] using hled
  | _ => exact hall rfl ▸ hled

def OneGlance (v w : Sight) : Prop := ∃ g : Glance, ∀ g' : Glance, g' ≠ g → v.Same w g'

section Lines

variable {s s' : Settings N}

lemma enabled_of_slot {key : BitVec 32} {slot : Fin 20} (hk : key.toNat = slot)
    (h : s.configState slot = s'.configState slot) :
    decide (s.Enabled key) = decide (s'.Enabled key) := by
  have hlt : key.toNat < 20 := hk ▸ slot.isLt
  have hs : (⟨key.toNat, hlt⟩ : Fin 20) = slot := Fin.ext hk
  simp only [Settings.Enabled, arrayLookup, dif_pos hlt, hs, h]

lemma lookup_of_nets {l : SubnetList} (h : ∀ net, (subnets s l).get? net = (subnets s' l).get? net) (a : Addr) :
    ((subnets s l).lookup ⟨32#32, a⟩).isSome = ((subnets s' l).lookup ⟨32#32, a⟩).isSome := by
  rw [Bool.eq_iff_iff]
  change (PrefixTable.longest (subnets s l) a).isSome ↔ (PrefixTable.longest (subnets s' l) a).isSome
  rw [PrefixTable.longest_isSome, PrefixTable.longest_isSome]
  simp only [h]

def Entry.glance : Entry → Glance
  | .flag slot => if slot = 0 then .blacklistFlag else if slot = 1 then .ratelimitFlag else .whitelistFlag
  | .subnet .whitelist _ => .whitelistMatch
  | .subnet .blacklist _ => .blacklistMatch
  | .limit _ => .limit

lemma oneGlance_of_confined {line : Text} (h : Confined line (view s) (view s')) (a : Addr) :
    OneGlance (sight s a) (sight s' a) := by
  obtain ⟨e, hsame, -⟩ := h
  refine ⟨e.glance, fun g hg => ?_⟩
  have hentry (e' : Entry) (he : e'.glance = g) : e'.Same (view s) (view s') :=
    hsame e' (fun heq => hg (by rw [← he, heq]))
  cases g with
  | whitelistFlag => exact enabled_of_slot rfl (hentry (.flag 2) rfl)
  | whitelistMatch => exact lookup_of_nets (fun net => hentry (.subnet .whitelist net) rfl) a
  | blacklistFlag => exact enabled_of_slot rfl (hentry (.flag 0) rfl)
  | blacklistMatch => exact lookup_of_nets (fun net => hentry (.subnet .blacklist net) rfl) a
  | ratelimitFlag => exact enabled_of_slot rfl (hentry (.flag 1) rfl)
  | limit => exact hentry (.limit a) rfl

end Lines

structure Traffic (n N : ℕ) where
  pool : Pool n N
  calls : ℕ
  journal : List Note

inductive Move (n : ℕ) where
  | tick (tick : Tick n)
  | line (text : Text)

namespace Traffic

def settings (s : Traffic n N) : Settings N := s.pool.maps.settings

def host (s : Traffic n N) : Host N := ⟨s.settings, s.calls, s.journal⟩

def withHost (s : Traffic n N) (h : Host N) : Traffic n N :=
  ⟨{ s.pool with maps := { s.pool.maps with settings := h.settings } }, h.calls, h.journal⟩

variable (faults : Faults N) (configTypes : List ConfigType)

def step (s : Traffic n N) : Move n → Option (Traffic n N)
  | .tick tick => (s.pool.step tick).map (fun pool => { s with pool })
  | .line text => some (s.withHost (run (Sys.exec faults) (processEventMessage configTypes text) s.host).2)

def changes (a : Addr) : Traffic n N → List (Move n) → ℕ
  | _, [] => 0
  | s, move :: moves =>
    match s.step faults configTypes move with
    | none => 0
    | some t => (if sight t.settings a = sight s.settings a then 0 else 1) + changes a t moves

def read (s : Traffic n N) (i : Fin n) (r : Readings) : Move n → Readings
  | .tick (.run j inp) =>
      if i = j then r.advance inp s.pool.maps (s.pool.threads i).frame (s.pool.threads i).point else r
  | _ => r

def readings (i : Fin n) (r : Readings) : Traffic n N → List (Move n) → Readings
  | _, [] => r
  | s, move :: moves =>
    match s.step faults configTypes move with
    | none => r
    | some t => readings i (s.read i r move) t moves

end Traffic

lemma settings_advance {inp : Input} {m m' : Maps N} {f : Frame} {pt pt' : Point}
    (h : Point.advance inp m f pt = some (pt', m')) : m'.settings = m.settings := by
  cases advances_of_advance h <;> rfl

section Moves

variable {faults : Faults N} {configTypes : List ConfigType} {s t : Traffic n N} {i : Fin n}
  {f : Frame} {v : Sight}
  {r : Readings} {move : Move n} {moves : List (Move n)}

lemma move_cases (r : Readings) (h : s.step faults configTypes move = some t) :
    (t.settings = s.settings ∧ (t.pool.threads i = s.pool.threads i ∧ s.read i r move = r ∨ ∃ inp pt m,
      Point.advance inp s.pool.maps (s.pool.threads i).frame (s.pool.threads i).point = some (pt, m) ∧
      t.pool.threads i = ⟨(s.pool.threads i).frame, pt⟩ ∧
      s.read i r move = r.advance inp s.pool.maps (s.pool.threads i).frame (s.pool.threads i).point)) ∨
    (t.pool.threads i = s.pool.threads i ∧ s.read i r move = r ∧
      ∀ a, OneGlance (sight s.settings a) (sight t.settings a)) := by
  cases move with
  | line text =>
    cases h
    refine .inr ⟨rfl, rfl, fun a => ?_⟩
    exact oneGlance_of_confined (confined_event faults configTypes s.host text) a
  | tick tick =>
    obtain ⟨pool, hpool, rfl⟩ := Option.map_eq_some_iff.mp h
    left
    cases tick with
    | consume k =>
      cases hpool
      exact ⟨rfl, .inl ⟨rfl, rfl⟩⟩
    | run j inp =>
      obtain ⟨⟨pt, m⟩, hr, rfl⟩ := Option.map_eq_some_iff.mp hpool
      refine ⟨settings_advance hr, ?_⟩
      by_cases hij : i = j
      · subst hij
        exact .inr ⟨inp, pt, m, hr, Pool.move_self _ _ _ _, if_pos rfl⟩
      · exact .inl ⟨Pool.move_of_ne _ hij _ _, if_neg hij⟩

structure Sees (s : Traffic n N) (i : Fin n) (f : Frame) (v : Sight) (r : Readings) : Prop where
  frame : (s.pool.threads i).frame = f
  ipv4 : (s.pool.threads i).point = .start ∨ (s.pool.threads i).point = .skipped ∨ f.IsIpv4
  led : Led v r (s.pool.threads i).point
  ahead : AgreeFrom (taken (s.pool.threads i).point) v (sight s.settings f.saddr)

lemma Sees.of_thread (hs : Sees s i f v r) (ht : t.pool.threads i = s.pool.threads i)
    (hahead : AgreeFrom (taken (s.pool.threads i).point) v (sight t.settings f.saddr)) : Sees t i f v r := by
  constructor
  case frame => exact (congrArg Thread.frame ht).trans hs.frame
  case ipv4 => exact ht ▸ hs.ipv4
  case led => exact ht ▸ hs.led
  case ahead => exact ht ▸ hahead

lemma sees_same (hs : Sees s i f v r) (h : s.step faults configTypes move = some t)
    (hsame : sight t.settings f.saddr = sight s.settings f.saddr) : Sees t i f v (s.read i r move) := by
  have hahead : AgreeFrom (taken (s.pool.threads i).point) v (sight t.settings f.saddr) := hsame ▸ hs.ahead
  rcases move_cases (i := i) r h with ⟨-, ⟨ht, hread⟩ | ⟨inp, pt, m, hadv, ht, hread⟩⟩ | ⟨ht, hread, -⟩
  · rw [hread]
    exact hs.of_thread ht hahead
  · obtain ⟨rfl, hipv4, hled, hagree⟩ := hs
    have hrunning : (s.pool.threads i).point = .start ∨ (s.pool.threads i).frame.IsIpv4 := by
      rcases hipv4 with hstart | hskipped | hipv4
      · exact .inl hstart
      · rw [hskipped] at hadv
        cases hadv
      · exact .inr hipv4
    obtain ⟨hled', hle⟩ := led_advance hagree hled hadv
    constructor
    case frame => rw [ht]
    case ipv4 => exact ht ▸ .inr (ipv4_advance hrunning hadv)
    case led => exact ht ▸ hread ▸ hled'
    case ahead => exact ht ▸ hahead.mono hle
  · rw [hread]
    exact hs.of_thread ht hahead

lemma sees_changed (hs : Sees s i f (sight s.settings f.saddr) r) (h : s.step faults configTypes move = some t)
    (hne : sight t.settings f.saddr ≠ sight s.settings f.saddr) :
    Sees t i f (sight s.settings f.saddr) (s.read i r move) ∨
      Sees t i f (sight t.settings f.saddr) (s.read i r move) := by
  rcases move_cases (i := i) r h with ⟨hsame, -⟩ | ⟨ht, hread, hone⟩
  · exact absurd (by rw [hsame]) hne
  · obtain ⟨g, hg⟩ := hone f.saddr
    rw [hread]
    by_cases hahead : taken (s.pool.threads i).point ≤ g.rank
    · -- the glance is still ahead, so everything behind is as it was
      right
      have hled : Led (sight t.settings f.saddr) r (s.pool.threads i).point := by
        refine led_congr (fun g' hlt => hg g' ?_) hs.led
        rintro rfl
        omega
      exact ⟨(congrArg Thread.frame ht).trans hs.frame, ht ▸ hs.ipv4, ht ▸ hled, fun g' _ => Sight.same_refl _ g'⟩
    · left
      refine hs.of_thread ht (fun g' hle => hg g' ?_)
      rintro rfl
      exact hahead hle

lemma sees_runs (hs : Sees s i f v r) (h : runs (Traffic.step faults configTypes) s moves = some t)
    (hchanges : s.changes faults configTypes f.saddr moves = 0) :
    Sees t i f v (s.readings faults configTypes i r moves) := by
  induction moves generalizing s r with
  | nil =>
    cases h
    exact hs
  | cons move moves ih =>
    obtain ⟨u, hu, hr⟩ := runs_cons.mp h
    simp only [Traffic.changes, hu, Nat.add_eq_zero_iff, ite_eq_left_iff, one_ne_zero, imp_false,
      not_not] at hchanges
    simp only [Traffic.readings, hu]
    exact ih (sees_same hs hu hchanges.1) hr hchanges.2

lemma sight_runs (h : runs (Traffic.step faults configTypes) s moves = some t) {a : Addr}
    (hchanges : s.changes faults configTypes a moves = 0) : sight t.settings a = sight s.settings a := by
  induction moves generalizing s with
  | nil =>
    cases h
    rfl
  | cons move moves ih =>
    obtain ⟨u, hu, hr⟩ := runs_cons.mp h
    simp only [Traffic.changes, hu, Nat.add_eq_zero_iff, ite_eq_left_iff, one_ne_zero, imp_false,
      not_not] at hchanges
    rw [ih hr hchanges.2, hchanges.1]

lemma sees_once (hs : Sees s i f (sight s.settings f.saddr) r)
    (h : runs (Traffic.step faults configTypes) s moves = some t)
    (hchanges : s.changes faults configTypes f.saddr moves ≤ 1) :
    Sees t i f (sight s.settings f.saddr) (s.readings faults configTypes i r moves) ∨
      Sees t i f (sight t.settings f.saddr) (s.readings faults configTypes i r moves) := by
  induction moves generalizing s r with
  | nil =>
    cases h
    exact .inl hs
  | cons move moves ih =>
    obtain ⟨u, hu, hr⟩ := runs_cons.mp h
    simp only [Traffic.changes, hu] at hchanges
    simp only [Traffic.readings, hu]
    by_cases hsame : sight u.settings f.saddr = sight s.settings f.saddr
    · rw [if_pos hsame, Nat.zero_add] at hchanges
      have hu' := sees_same hs hu hsame
      rw [← hsame] at hu' ⊢
      exact ih hu' hr hchanges
    · rw [if_neg hsame] at hchanges
      have hzero : u.changes faults configTypes f.saddr moves = 0 := by omega
      rw [sight_runs hr hzero]
      exact (sees_changed hs hu hsame).imp (sees_runs · hr hzero) (sees_runs · hr hzero)

lemma run_of_judged {settings : Settings N} {action : XdpAction} (hf : f.IsIpv4)
    (hj : Judged (sight settings f.saddr) r action) {m : Maps N} {inp : Input} (hm : m.settings = settings)
    (hslot : m.HasSlot inp) (hfound : r.Found m inp f.saddr) : (run (exec inp) (xdpFilter f) m).1 = action := by
  obtain ⟨now, hnow, hjudge⟩ := hj
  obtain rfl : now = inp.now := Option.mem_unique hnow hfound.clock
  rw [run_xdpFilter, if_pos ⟨hf, hslot⟩]
  exact (verdict_eq_judge m inp.now f.saddr).trans (hm ▸ hjudge _ hfound.stamp)

lemma Sees.run_logged {action : XdpAction} (hs : Sees t i f (sight s.settings f.saddr) r)
    (hend : (t.pool.threads i).point = .logged action) :
    r.clock.isSome ∧ ∀ (m : Maps N) (inp : Input), m.settings = s.settings → m.HasSlot inp →
      r.Found m inp f.saddr → (run (exec inp) (xdpFilter f) m).1 = action := by
  have hled := hs.led
  have hf : f.IsIpv4 := by simpa [hend] using hs.ipv4
  rw [hend] at hled
  exact ⟨Option.isSome_of_mem hled.choose_spec.1, fun m inp hm hslot => run_of_judged hf hled hm hslot⟩

end Moves

/-- The packet gets the verdict that `xdp_filter` would give at once, with the settings of before or of after, at
the time this call read and with the timestamp it found. -/
theorem verdict_of_one_change (faults : Faults N) (configTypes : List ConfigType) (s t : Traffic n N) (i : Fin n)
    (moves : List (Move n)) (action : XdpAction) (hstart : (s.pool.threads i).point = .start)
    (hrun : runs (Traffic.step faults configTypes) s moves = some t)
    (hend : (t.pool.threads i).point = .logged action)
    (hchanges : s.changes faults configTypes (s.pool.threads i).frame.saddr moves ≤ 1) :
    (s.readings faults configTypes i .none moves).clock.isSome ∧
      ∃ settings, (settings = s.settings ∨ settings = t.settings) ∧
        ∀ (m : Maps N) (inp : Input), m.settings = settings → m.HasSlot inp →
          (s.readings faults configTypes i .none moves).Found m inp (s.pool.threads i).frame.saddr →
          (run (exec inp) (xdpFilter (s.pool.threads i).frame) m).1 = action := by
  have hs : Sees s i (s.pool.threads i).frame (sight s.settings (s.pool.threads i).frame.saddr) .none := by
    constructor
    case frame => rfl
    case ipv4 => exact .inl hstart
    case led =>
      rw [hstart]
      rfl
    case ahead => exact fun g _ => Sight.same_refl _ g
  rcases sees_once hs hrun hchanges with hs' | hs'
  · obtain ⟨hclock, hall⟩ := hs'.run_logged hend
    exact ⟨hclock, s.settings, .inl rfl, hall⟩
  · obtain ⟨hclock, hall⟩ := hs'.run_logged hend
    exact ⟨hclock, t.settings, .inr rfl, hall⟩

def ticks (i : Fin n) (now k : ℕ) : List (Move n) := List.replicate k (.tick (.atTime i now))

def limitedTraffic (i : Fin 2) : Traffic 2 8 :=
  reached (Traffic.step (fun _ _ _ => false) allTypes) ⟨.start (fun _ => .source 0x0A000001#32) .zeroed, 0, []⟩
    (.line "ratelimit:enabled".toList :: .line "ratelimit:add 10.0.0.1 1".toList :: ticks i 5 15)

def switchedOff (i : Fin 2) : List (Move 2) := ticks i 6 7 ++ .line "ratelimit:disabled".toList :: ticks i 6 6

theorem verdict_of_one_change_limited :
    ∃ t, runs (Traffic.step (fun _ _ _ => false) allTypes) (limitedTraffic 0) (switchedOff 1) = some t ∧
      (t.pool.threads 1).point = .logged .drop ∧
      ∃ settings, (settings = (limitedTraffic 0).settings ∨ settings = t.settings) ∧
        ∀ (m : Maps 8) (inp : Input), m.settings = settings → m.HasSlot inp →
          (Readings.mk (some 6#64) (some (some 5#64))).Found m inp 0x0A000001#32 →
          (run (exec inp) (xdpFilter (.source 0x0A000001#32)) m).1 = .drop := by
  set s := limitedTraffic 0
  have hrun := runs_reached (Traffic.step (fun _ _ _ => false) allTypes) s (switchedOff 1) (by decide +kernel)
  have hend : ((reached (Traffic.step (fun _ _ _ => false) allTypes) s (switchedOff 1)).pool.threads 1).point =
      .logged .drop := by decide +kernel
  have hframe : (s.pool.threads 1).frame = .source 0x0A000001#32 := by decide +kernel
  have hsaddr : Frame.saddr (.source 0x0A000001#32) = 0x0A000001#32 := by decide +kernel
  have hread : s.readings (fun _ _ _ => false) allTypes 1 .none (switchedOff 1) = ⟨some 6#64, some (some 5#64)⟩ := by
    decide +kernel
  obtain ⟨-, hverdict⟩ := verdict_of_one_change _ allTypes s _ 1 (switchedOff 1) .drop (by decide +kernel) hrun hend
    (by decide +kernel)
  rw [hframe, hsaddr, hread] at hverdict
  exact ⟨_, hrun, hend, hverdict⟩

def listedTraffic : Traffic 1 8 :=
  reached (Traffic.step (fun _ _ _ => false) allTypes) ⟨.start (fun _ => .source 0x0A000001#32) .zeroed, 0, []⟩
    [.line "whitelist:enabled".toList, .line "whitelist:add 10.0.0.1/32".toList, .line "blacklist:enabled".toList,
      .line "blacklist:add 10.0.0.1/32".toList]

-- Two lines while a packet is judged: it passes, although before, between and after them it would be dropped.
example :
    let step := Traffic.step (n := 1) (fun _ _ _ => false) allTypes
    let s := reached step listedTraffic (ticks 0 5 7)
    let t := reached step s [.line "whitelist:remove 10.0.0.1/32".toList]
    let u := reached step t [.line "blacklist:remove 10.0.0.1/32".toList]
    (sight s.settings 0x0A000001#32).Listed ∧ (sight t.settings 0x0A000001#32).Listed ∧
      (sight u.settings 0x0A000001#32).Listed ∧
      ((reached step u (ticks 0 5 7)).pool.threads 0).point = .logged .pass := by
  decide +kernel

end PacketFilter.Config
