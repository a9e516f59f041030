import PacketFilter.Engine.Runs

/-! Reloads some of whose map operations failed, and a last one that goes through. -/

namespace PacketFilter.Engine

open Library Library.Programs Library.Scanning Library.Syncing Kernel Prog
open Config (Sys SysProg Faults Host Command View view)

variable {N : ℕ}

structure Call.Distinct (call : Call) : Prop where
  networks : ∀ new ∈ call.subnets?, (new.map SubnetNode.network).Nodup
  addresses : ∀ new ∈ call.limits?, (new.map RateLimit.ip).Nodup

instance (call : Call) : Decidable call.Distinct :=
  decidable_of_iff (_ ∧ _) ⟨fun h => ⟨h.1, h.2⟩, fun h => ⟨h.networks, h.addresses⟩⟩

namespace State

structure Distinct (s : State N) : Prop where
  networks : (s.currentBlacklistSubnets.map SubnetNode.network).Nodup
  addresses : (s.currentRateLimits.map RateLimit.ip).Nodup

structure Mirrors (s : State N) (call : Call) : Prop where
  subnets : ∀ new ∈ call.subnets?, ∀ net,
    (s.host.settings.blacklistSubnets.get? net).isSome ↔ ∃ node ∈ new, node.network = net
  limits : ∀ new ∈ call.limits?, ∀ a config,
    s.host.settings.ipRateLimits.get? a = some config ↔ (a, config) ∈ new.map RateLimit.entry

/-- Entries that stay in a list are in its map, and what the map holds is in the list or was in it. -/
structure Settled (s : State N) (call : Call) : Prop where
  subnets_kept : ∀ new ∈ call.subnets?, ∀ node ∈ new, node ∈ s.currentBlacklistSubnets →
    (s.host.settings.blacklistSubnets.get? node.network).isSome
  subnets_known : ∀ new ∈ call.subnets?, ∀ net, (s.host.settings.blacklistSubnets.get? net).isSome →
    net ∈ named SubnetNode.network new ∨ net ∈ named SubnetNode.network s.currentBlacklistSubnets
  limits_kept : ∀ new ∈ call.limits?, ∀ limit ∈ new, limit ∈ s.currentRateLimits →
    s.host.settings.ipRateLimits.get? limit.ip = some limit.config
  limits_known : ∀ new ∈ call.limits?, ∀ a, (s.host.settings.ipRateLimits.get? a).isSome →
    a ∈ named RateLimit.ip new ∨ a ∈ named RateLimit.ip s.currentRateLimits

instance (s : State N) (call : Call) : Decidable (s.Settled call) :=
  decidable_of_iff (_ ∧ _ ∧ _ ∧ _) ⟨fun h => ⟨h.1, h.2.1, h.2.2.1, h.2.2.2⟩,
    fun h => ⟨h.subnets_kept, h.subnets_known, h.limits_kept, h.limits_known⟩⟩

section Tracking

variable {env : Env N} {s : State N} {call : Call}

lemma Fresh.distinct (h : s.Fresh) : s.Distinct := by
  constructor
  · simp [h.subnets]
  · simp [h.limits]

lemma distinct_step (hs : s.Distinct) (hc : call.Distinct) : (s.step env call).Distinct := by
  by_cases ha : s.Accepts env call
  · obtain ⟨_, _, hsub, hlim⟩ := step_of_accepts ha
    constructor
    · rw [hsub]
      cases hn : call.subnets? with
      | none => exact hs.networks
      | some new => exact hc.networks new hn
    · rw [hlim]
      cases hn : call.limits? with
      | none => exact hs.addresses
      | some new => exact hc.addresses new hn
  · have hu : Untouched s (s.step env call) := updateFromConfig_of_not_accepts ha
    constructor
    · rw [hu.subnets]
      exact hs.networks
    · rw [hu.limits]
      exact hs.addresses

lemma distinct_runAll (calls : List Call) (hs : s.Distinct) (hc : ∀ c ∈ calls, c.Distinct) :
    (runAll env s calls).Distinct := by
  induction calls generalizing s with
  | nil => exact hs
  | cons c cs ih =>
    exact ih (distinct_step hs (hc c List.mem_cons_self)) (fun d hd => hc d (List.mem_cons_of_mem _ hd))

lemma entry_injective : Function.Injective RateLimit.entry := by
  rintro ⟨ip, pps, interval, h⟩ ⟨ip', pps', interval', h'⟩ he
  simp only [RateLimit.entry, RateLimit.config, Prod.mk.injEq, IpRateLimit.mk.injEq] at he
  obtain ⟨rfl, rfl, rfl⟩ := he
  rfl

lemma fst_entries (limits : List RateLimit) :
    (limits.map RateLimit.entry).map Prod.fst = limits.map RateLimit.ip := by
  rw [List.map_map]
  rfl

lemma valuesOf_entries_eq_nil (limits : List RateLimit) (a : Addr) :
    valuesOf (limits.map RateLimit.entry) a = [] ↔ a ∉ named RateLimit.ip limits := by
  simp [valuesOf_entries, named]

lemma subnets_mirrored_iff (hs : s.Distinct) (hc : call.Distinct) (ha : s.Accepts env call)
    (hok : s.Succeeds env call) {new : List SubnetNode} (hn : new ∈ call.subnets?) :
    (∀ net, ((s.step env call).host.settings.blacklistSubnets.get? net).isSome ↔
      ∃ node ∈ new, node.network = net) ↔
    (∀ node ∈ new, node ∈ s.currentBlacklistSubnets →
      (s.host.settings.blacklistSubnets.get? node.network).isSome) ∧
    ∀ net, (s.host.settings.blacklistSubnets.get? net).isSome →
      net ∈ named SubnetNode.network new ∨ net ∈ named SubnetNode.network s.currentBlacklistSubnets := by
  have hstep := blacklisted_step ha hok hn
  have hiff := synced_eq_iff
    (fun e he d hd h => List.inj_on_of_nodup_map hs.networks hd he h)
    (fun e he d hd h => List.inj_on_of_nodup_map (hc.networks new hn) hd he h)
    (blacklisted (view s.host.settings))
  rw [← hstep, Set.ext_iff] at hiff
  refine hiff.trans (and_congr Iff.rfl ?_)
  exact forall₂_congr (fun net _ => or_iff_not_imp_left.symm)

lemma limits_mirrored_iff (hs : s.Distinct) (hc : call.Distinct) (ha : s.Accepts env call)
    (hok : s.Succeeds env call) {new : List RateLimit} (hn : new ∈ call.limits?) :
    (∀ a config, (s.step env call).host.settings.ipRateLimits.get? a = some config ↔
      (a, config) ∈ new.map RateLimit.entry) ↔
    (∀ limit ∈ new, limit ∈ s.currentRateLimits →
      s.host.settings.ipRateLimits.get? limit.ip = some limit.config) ∧
    ∀ a, (s.host.settings.ipRateLimits.get? a).isSome →
      a ∈ named RateLimit.ip new ∨ a ∈ named RateLimit.ip s.currentRateLimits := by
  have hnew : ((new.map RateLimit.entry).map Prod.fst).Nodup := fst_entries new ▸ hc.addresses new hn
  have htracked : ((s.currentRateLimits.map RateLimit.entry).map Prod.fst).Nodup :=
    fst_entries s.currentRateLimits ▸ hs.addresses
  have hiff := resynced_eq_iff htracked hnew (view s.host.settings).limits
  rw [← limits_step ha hok hn] at hiff
  have hleft : (∀ a config, (s.step env call).host.settings.ipRateLimits.get? a = some config ↔
      (a, config) ∈ new.map RateLimit.entry) ↔
      (view (s.step env call).host.settings).limits = rebuilt (new.map RateLimit.entry) := by
    simp only [← rebuilt_eq_some_iff hnew]
    exact ⟨fun h => funext (fun a => Option.ext (h a)), fun h a config => by rw [← h]; rfl⟩
  rw [hleft, hiff]
  refine and_congr ?_ ?_
  · simp only [List.forall_mem_map, List.mem_map_of_injective entry_injective]
    rfl
  · refine forall_congr' (fun a => ?_)
    rw [ne_eq (valuesOf _ _), valuesOf_entries_eq_nil, valuesOf_entries_eq_nil, not_not,
      ← Option.ne_none_iff_isSome,
      or_iff_not_imp_left]
    rfl

end Tracking

end State

theorem sync_recovers_iff {env : Env N} {s : State N} (hs : s.Fresh) (calls : List Call) (final : Call)
    (hdistinct : ∀ c ∈ calls ++ [final], c.Distinct) (haccepts : (runAll env s calls).Accepts env final)
    (hok : (runAll env s calls).Succeeds env final) :
    (runAll env s (calls ++ [final])).Mirrors final ↔ (runAll env s calls).Settled final := by
  have hc := hdistinct final (List.mem_append_right _ (List.mem_singleton_self _))
  have ht : (runAll env s calls).Distinct :=
    State.distinct_runAll calls hs.distinct (fun c hc => hdistinct c (List.mem_append_left _ hc))
  have hsub {new : List SubnetNode} (hn : new ∈ final.subnets?) :=
    State.subnets_mirrored_iff ht hc haccepts hok hn
  have hlim {new : List RateLimit} (hn : new ∈ final.limits?) :=
    State.limits_mirrored_iff ht hc haccepts hok hn
  rw [runAll, List.foldl_append, List.foldl_cons, List.foldl_nil]
  constructor
  · intro h
    exact ⟨fun new hn => ((hsub hn).mp (h.subnets new hn)).1, fun new hn => ((hsub hn).mp (h.subnets new hn)).2,
      fun new hn => ((hlim hn).mp (h.limits new hn)).1, fun new hn => ((hlim hn).mp (h.limits new hn)).2⟩
  · intro h
    exact ⟨fun new hn => (hsub hn).mpr ⟨h.subnets_kept new hn, h.subnets_known new hn⟩,
      fun new hn => (hlim hn).mpr ⟨h.limits_kept new hn, h.limits_known new hn⟩⟩

def shaky : Env 4 := ⟨3, 4, fun _ => 2, fun calls _ _ => calls = 0⟩

def eight : Call := reload "interface=eth0\nip_blacklist=10.0.0.0/8"

def sixteen : Call := reload "interface=eth0\nip_blacklist=10.1.0.0/16\nip_rate_limits=10.0.0.1:2"

theorem sync_recovers_sixteen :
    (runAll shaky unloaded [eight]).currentBlacklistSubnets.length = 1 ∧
    ¬ (runAll shaky unloaded [eight]).Covers 0x0A000000#32 ∧
    (runAll shaky unloaded [eight, sixteen]).Mirrors sixteen := by
  refine ⟨by decide +kernel, by decide +kernel, ?_⟩
  exact (sync_recovers_iff fresh_unloaded [eight] sixteen (by decide +kernel) (by decide +kernel)
    (by decide +kernel)).mpr (by decide +kernel)

theorem failed_add_not_repaired :
    unloaded.Fresh ∧ eight.Distinct ∧ (runAll shaky unloaded [eight]).Accepts shaky eight ∧
    (runAll shaky unloaded [eight]).Succeeds shaky eight ∧
    ∃ new ∈ eight.subnets?, (∃ node ∈ new, node.network = .of 8 (by decide) 0x0A000000#32) ∧
      (runAll shaky unloaded [eight, eight]).host.settings.blacklistSubnets.get?
        (.of 8 (by decide) 0x0A000000#32) = none :=
  ⟨fresh_unloaded, by decide +kernel, by decide +kernel, by decide +kernel, by decide +kernel⟩

end PacketFilter.Engine
