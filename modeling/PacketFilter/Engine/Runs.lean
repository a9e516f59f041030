import PacketFilter.Engine.Effects

/-! Sequences of reloads: the maps against the lists of the latest file. -/

namespace PacketFilter.Engine

open Library Library.Programs Library.Scanning Library.Syncing Kernel Prog
open Config (Sys SysProg Faults Host Command View view)

variable {N : ℕ}

namespace Call

def fields (call : Call) : Option Fields := call.file.map fieldsOf

def subnets? (call : Call) : Option (List SubnetNode) := call.fields.bind (fun f => f.newSubnets.join)

def limits? (call : Call) : Option (List RateLimit) := call.fields.bind Fields.newRateLimits

end Call

namespace State

variable (env : Env N) (call : Call) (s : State N)

/-- The file names the interface in force, or at first one that the system knows, and can be read. -/
def Accepts : Prop :=
  ∃ f ∈ call.fields, (∃ name ∈ f.ifaceName, (s.setInterface env name).1 = true) ∧ f.newSubnets.isSome

instance : Decidable (s.Accepts env call) := inferInstanceAs (Decidable (∃ f ∈ call.fields,
  (∃ name ∈ f.ifaceName, (s.setInterface env name).1 = true) ∧ f.newSubnets.isSome))

def afterSubnets : Host N :=
  call.subnets?.elim s.host (fun new => (run (Sys.exec env.faults)
    (syncBlacklist env.mapFdBlacklistSubnets s.currentBlacklistSubnets new) s.host).2)

def afterRates : Host N :=
  call.limits?.elim (s.afterSubnets env call) (fun new => (run (Sys.exec env.faults)
    (syncRates env.mapFdRateLimits s.currentRateLimits new) (s.afterSubnets env call)).2)

structure Succeeds : Prop where
  subnets : ∀ new ∈ call.subnets?, Smooth env.faults
    (syncBlacklist env.mapFdBlacklistSubnets s.currentBlacklistSubnets new) s.host
  rates : ∀ new ∈ call.limits?, Smooth env.faults
    (syncRates env.mapFdRateLimits s.currentRateLimits new) (s.afterSubnets env call)

instance : Decidable (s.Succeeds env call) :=
  decidable_of_iff (_ ∧ _) ⟨fun h => ⟨h.1, h.2⟩, fun h => ⟨h.subnets, h.rates⟩⟩

def step : State N := (s.updateFromConfig env call).2

structure Untouched (s t : State N) : Prop where
  host : t.host = s.host
  subnets : t.currentBlacklistSubnets = s.currentBlacklistSubnets
  limits : t.currentRateLimits = s.currentRateLimits

variable {env call s}

lemma untouched_setInterface (env : Env N) (name : Text) (s : State N) :
    Untouched s (s.setInterface env name).2 := by
  unfold setInterface
  split_ifs <;> exact ⟨rfl, rfl, rfl⟩

lemma applySubnets_eq (env : Env N) (new : List SubnetNode) (s : State N) :
    s.applySubnets env new = (.returned 0, { s with
      host := (run (Sys.exec env.faults)
        (syncBlacklist env.mapFdBlacklistSubnets s.currentBlacklistSubnets new) s.host).2
      currentBlacklistSubnets := new }) := by
  simp only [applySubnets, returned_syncBlacklist]

lemma sync_eq (env : Env N) (subnets : Option (List SubnetNode)) (limits : Option (List RateLimit)) (call : Call)
    (s : State N) : s.sync env subnets limits call =
      (.returned 0, (limits.elim (subnets.elim s (fun new => (s.applySubnets env new).2))
        (fun new => (subnets.elim s (fun new => (s.applySubnets env new).2)).applyRates env new)).signal call) := by
  cases subnets with
  | none => rfl
  | some new => simp only [sync, Option.elim_some, applySubnets_eq]

lemma updateFromConfig_of_accepts (ha : s.Accepts env call) :
    ∃ t, Untouched s t ∧ s.updateFromConfig env call = t.sync env call.subnets? call.limits? call := by
  obtain ⟨f, hf, ⟨name, hn, hi⟩, hs⟩ := ha
  obtain ⟨text, ht, rfl⟩ := Option.map_eq_some_iff.mp hf
  obtain ⟨subnets, hsub⟩ := Option.isSome_iff_exists.mp hs
  have hu := untouched_setInterface env name s
  refine ⟨_, hu, ?_⟩
  have hfields : call.fields = some (fieldsOf text) := hf
  have h1 : call.subnets? = subnets := by simp [Call.subnets?, hfields, hsub]
  have h2 : call.limits? = (fieldsOf text).newRateLimits := by simp [Call.limits?, hfields]
  rw [h1, h2]
  have hn' : (fieldsOf text).ifaceName = some name := hn
  simp only [updateFromConfig, ht, hn']
  cases hset : s.setInterface env name with
  | mk b t =>
    rw [hset] at hi
    obtain rfl : b = true := hi
    simp only [hsub]

lemma updateFromConfig_of_not_accepts (ha : ¬ s.Accepts env call) : Untouched s (s.step env call) := by
  cases hfile : call.file with
  | none =>
    simp only [step, updateFromConfig, hfile]
    exact ⟨rfl, rfl, rfl⟩
  | some text =>
    cases hn : (fieldsOf text).ifaceName with
    | none =>
      simp only [step, updateFromConfig, hfile, hn]
      exact ⟨rfl, rfl, rfl⟩
    | some name =>
      have hu := untouched_setInterface env name s
      cases hset : s.setInterface env name with
      | mk b t =>
        rw [hset] at hu
        simp only [step, updateFromConfig, hfile, hn, hset]
        cases b with
        | false => exact hu
        | true =>
          cases hs : (fieldsOf text).newSubnets with
          | none =>
            simp only
            exact hu
          | some subnets =>
            refine absurd ⟨fieldsOf text, ?_, ⟨name, hn, ?_⟩, ?_⟩ ha
            · simp [Call.fields, hfile]
            · rw [hset]
            · simp [hs]

lemma signal_untouched (call : Call) (s : State N) : Untouched s (s.signal call) := by
  unfold signal
  split_ifs <;> exact ⟨rfl, rfl, rfl⟩

lemma step_of_accepts (ha : s.Accepts env call) :
    (s.updateFromConfig env call).1 = .returned 0 ∧ (s.step env call).host = s.afterRates env call ∧
      (s.step env call).currentBlacklistSubnets = call.subnets?.getD s.currentBlacklistSubnets ∧
      (s.step env call).currentRateLimits = call.limits?.getD s.currentRateLimits := by
  obtain ⟨t, hu, he⟩ := updateFromConfig_of_accepts ha
  have hu' : ∀ t : State N, Untouched t (t.signal call) := signal_untouched call
  rw [step, he, sync_eq]
  simp only [applySubnets_eq, (hu' _).host, (hu' _).subnets, (hu' _).limits, afterRates, afterSubnets]
  cases call.subnets? <;> cases call.limits? <;>
    simp [applyRates, hu.host, hu.subnets, hu.limits]

lemma blacklisted_step (ha : s.Accepts env call) (hs : s.Succeeds env call) {new : List SubnetNode}
    (hn : call.subnets? = some new) :
    blacklisted (view (s.step env call).host.settings) =
      synced SubnetNode.network s.currentBlacklistSubnets new (blacklisted (view s.host.settings)) := by
  have hsub : blacklisted (view (s.afterSubnets env call).settings) =
      synced SubnetNode.network s.currentBlacklistSubnets new (blacklisted (view s.host.settings)) := by
    rw [afterSubnets, hn]
    exact blacklisted_sync _ (hs.subnets new hn)
  rw [(step_of_accepts ha).2.1, afterRates, ← hsub]
  cases hl : call.limits? with
  | none => rfl
  | some limits => exact blacklisted_syncRates _ (hs.rates limits hl)

lemma limits_step (ha : s.Accepts env call) (hs : s.Succeeds env call) {new : List RateLimit}
    (hn : call.limits? = some new) :
    (view (s.step env call).host.settings).limits =
      resynced (s.currentRateLimits.map RateLimit.entry) (new.map RateLimit.entry)
        (view s.host.settings).limits := by
  have hsub : (view (s.afterSubnets env call).settings).limits = (view s.host.settings).limits := by
    rw [afterSubnets]
    cases hl : call.subnets? with
    | none => rfl
    | some subnets => exact limits_syncBlacklist _ (hs.subnets subnets hl)
  rw [(step_of_accepts ha).2.1, afterRates, hn, ← hsub]
  exact limits_sync _ (hs.rates new hn)

end State

section Runs

variable (env : Env N)

def runAll (s : State N) (calls : List Call) : State N := calls.foldl (fun s call => s.step env call) s

def moments : State N → List Call → List (State N × Call)
  | _, [] => []
  | s, c :: cs => (s, c) :: moments (s.step env c) cs

structure State.Fresh (s : State N) : Prop where
  subnets : s.currentBlacklistSubnets = []
  limits : s.currentRateLimits = []
  blacklist : ∀ net, s.host.settings.blacklistSubnets.get? net = none
  rates : ∀ a, s.host.settings.ipRateLimits.get? a = none

def State.Covers (s : State N) (a : Addr) : Prop := (s.host.settings.blacklistSubnets.lookup ⟨32#32, a⟩).isSome

instance (s : State N) (a : Addr) : Decidable (s.Covers a) :=
  inferInstanceAs (Decidable ((s.host.settings.blacklistSubnets.lookup ⟨32#32, a⟩).isSome = true))

lemma covers_iff (s : State N) (a : Addr) :
    s.Covers a ↔ ∃ net ∈ blacklisted (view s.host.settings), net.Contains a :=
  PrefixTable.longest_isSome s.host.settings.blacklistSubnets a

lemma State.Fresh.blacklisted_eq {s : State N} (h : s.Fresh) :
    blacklisted (view s.host.settings) = named SubnetNode.network s.currentBlacklistSubnets := by
  ext net
  have hn : (view s.host.settings).nets .blacklist net = none := h.blacklist net
  simp [blacklisted, named, hn, h.subnets]

lemma State.Fresh.limits_eq {s : State N} (h : s.Fresh) :
    (view s.host.settings).limits = rebuilt (s.currentRateLimits.map RateLimit.entry) := by
  funext a
  rw [h.limits]
  exact h.rates a

section Blacklist

variable {env} {s : State N}

lemma parseSubnets_of_all {entries : List Text} (h : ∀ e ∈ entries, ∃ node, parseSubnet e = .entry node) :
    ∃ new, parseSubnets entries = some new ∧ entries.map parseSubnet = new.map Parsed.entry := by
  induction entries with
  | nil => exact ⟨[], rfl, rfl⟩
  | cons e entries ih =>
    obtain ⟨node, hn⟩ := h e List.mem_cons_self
    obtain ⟨new, hp, hm⟩ := ih (fun e he => h e (List.mem_cons_of_mem _ he))
    exact ⟨node :: new, by simp [parseSubnets, hn, hp], by simp [hn, hm]⟩

lemma setInterface_name {name : Text} (hi : s.filterInterfaceName = [] ∨ s.filterInterfaceName = name)
    (hname : env.ifNametoindex name ≠ 0) :
    (s.setInterface env name).1 = true ∧ (s.setInterface env name).2.filterInterfaceName = name := by
  unfold State.setInterface
  split_ifs with he
  · exact ⟨by simpa using hname, rfl⟩
  · have hn := hi.resolve_left he
    exact ⟨by simpa using hn, hn⟩

lemma sync_name (subnets : Option (List SubnetNode)) (limits : Option (List RateLimit)) (call : Call)
    (s : State N) :
    (s.sync env subnets limits call).2.filterInterfaceName = s.filterInterfaceName := by
  have hs (t : State N) : (t.signal call).filterInterfaceName = t.filterInterfaceName := by
    unfold State.signal
    split_ifs <;> rfl
  rw [State.sync_eq, hs]
  cases subnets <;> cases limits <;> simp [State.applySubnets_eq, State.applyRates]

lemma accepts_of_name {call : Call} {f : Fields} (hf : call.fields = some f) {name : Text}
    (hn : f.ifaceName = some name) (hi : s.filterInterfaceName = [] ∨ s.filterInterfaceName = name)
    (hname : env.ifNametoindex name ≠ 0) (hsub : f.newSubnets.isSome) :
    s.Accepts env call ∧ (s.step env call).filterInterfaceName = name := by
  obtain ⟨hset, hnew⟩ := setInterface_name hi hname
  refine ⟨⟨f, hf, ⟨name, hn, hset⟩, hsub⟩, ?_⟩
  obtain ⟨text, ht, rfl⟩ := Option.map_eq_some_iff.mp hf
  obtain ⟨subnets, hs⟩ := Option.isSome_iff_exists.mp hsub
  cases he : s.setInterface env name with
  | mk b t =>
    rw [he] at hset hnew
    obtain rfl : b = true := hset
    simp only [State.step, State.updateFromConfig, ht, hn, he, hs, sync_name]
    exact hnew

/-- The file is for the interface `name`, and every entry of its blacklist can be read. -/
structure ListsSubnets (name : Text) (call : Call) (list : Text) : Prop where
  fields : ∃ f, call.fields = some f ∧ f.ifaceName = some name ∧ f.subnetList = some list
  parses : ∀ e ∈ entriesOf list, ∃ node, parseSubnet e = .entry node

instance (name : Text) (call : Call) (list : Text) : Decidable (ListsSubnets name call list) :=
  decidable_of_iff ((∃ f ∈ call.fields, f.ifaceName = some name ∧ f.subnetList = some list) ∧
    ∀ e ∈ entriesOf list, ∃ node, parseSubnet e = .entry node) ⟨fun h => ⟨h.1, h.2⟩, fun h => ⟨h.fields, h.parses⟩⟩

lemma ListsSubnets.subnets {name : Text} {call : Call} {list : Text} (h : ListsSubnets name call list) :
    ∃ f new, call.fields = some f ∧ f.ifaceName = some name ∧ f.newSubnets = some (some new) ∧
      call.subnets? = some new ∧ (entriesOf list).map parseSubnet = new.map Parsed.entry := by
  obtain ⟨f, hf, hn, hl⟩ := h.fields
  obtain ⟨new, hp, hm⟩ := parseSubnets_of_all h.parses
  have hs : f.newSubnets = some (some new) := by simp [Fields.newSubnets, hl, hp]
  exact ⟨f, new, hf, hn, hs, by simp [Call.subnets?, hf, hs], hm⟩

lemma blacklisted_runs {name : Text} (hname : env.ifNametoindex name ≠ 0) (calls : List Call)
    (hfiles : ∀ c ∈ calls, ∃ list, ListsSubnets name c list)
    (hi : s.filterInterfaceName = [] ∨ s.filterInterfaceName = name)
    (hb : blacklisted (view s.host.settings) = named SubnetNode.network s.currentBlacklistSubnets)
    (hok : ∀ x ∈ moments env s calls, x.1.Succeeds env x.2)
    (hkept : ∀ x ∈ moments env s calls, ∀ new ∈ x.2.subnets?,
      Undisturbed SubnetNode.network x.1.currentBlacklistSubnets new) :
    ∀ x ∈ moments env s calls, ∀ new ∈ x.2.subnets?,
      blacklisted (view (x.1.step env x.2).host.settings) = named SubnetNode.network new := by
  induction calls generalizing s with
  | nil => exact fun x hx => by cases hx
  | cons c cs ih =>
    obtain ⟨list, hl⟩ := hfiles c List.mem_cons_self
    obtain ⟨f, new, hf, hn, hs, hsub, _⟩ := hl.subnets
    obtain ⟨ha, hi'⟩ := accepts_of_name hf hn hi hname (by simp [hs])
    have hstep : blacklisted (view (s.step env c).host.settings) = named SubnetNode.network new := by
      rw [State.blacklisted_step ha (hok (s, c) List.mem_cons_self) hsub, hb]
      exact synced_named (hkept (s, c) List.mem_cons_self new hsub)
    have htracked : (s.step env c).currentBlacklistSubnets = new := by
      rw [(State.step_of_accepts ha).2.2.1, hsub, Option.getD_some]
    intro x hx
    rcases List.mem_cons.mp hx with rfl | hx
    · intro new' hnew'
      cases Option.mem_unique hsub hnew'
      exact hstep
    · exact ih (fun c hc => hfiles c (List.mem_cons_of_mem _ hc)) (Or.inr hi') (htracked ▸ hstep)
        (fun x hx => hok x (List.mem_cons_of_mem _ hx)) (fun x hx => hkept x (List.mem_cons_of_mem _ hx)) x hx

lemma mem_calls_of_moments {calls : List Call} {x : State N × Call} (hx : x ∈ moments env s calls) :
    x.2 ∈ calls := by
  induction calls generalizing s with
  | nil => cases hx
  | cons c cs ih =>
    rcases List.mem_cons.mp hx with rfl | hx
    · exact List.mem_cons_self
    · exact List.mem_cons_of_mem _ (ih hx)

theorem blacklist_sync_rebuilds {env : Env N} {name : Text} (hname : env.ifNametoindex name ≠ 0) {s : State N}
    (hs : s.Fresh) (hi : s.filterInterfaceName = [] ∨ s.filterInterfaceName = name) (calls : List Call)
    (hfiles : ∀ c ∈ calls, ∃ list, ListsSubnets name c list)
    (hok : ∀ x ∈ moments env s calls, x.1.Succeeds env x.2)
    (hkept : ∀ x ∈ moments env s calls, ∀ new ∈ x.2.subnets?,
      Undisturbed SubnetNode.network x.1.currentBlacklistSubnets new) :
    ∀ x ∈ moments env s calls, ∃ (list : Text) (new : List SubnetNode), ListsSubnets name x.2 list ∧
      (entriesOf list).map parseSubnet = new.map Parsed.entry ∧
      ∀ a, (x.1.step env x.2).Covers a ↔ ∃ node ∈ new, node.network.Contains a := by
  intro x hx
  obtain ⟨list, hl⟩ := hfiles x.2 (mem_calls_of_moments hx)
  obtain ⟨f, new, _, _, _, hsub, hm⟩ := hl.subnets
  refine ⟨list, new, hl, hm, ?_⟩
  intro a
  rw [covers_iff, blacklisted_runs hname calls hfiles hi hs.blacklisted_eq hok hkept x hx new hsub]
  constructor
  · rintro ⟨_, ⟨node, hn, rfl⟩, hc⟩
    exact ⟨node, hn, hc⟩
  · rintro ⟨node, hn, hc⟩
    exact ⟨_, ⟨node, hn, rfl⟩, hc⟩

def quiet : Env 4 := ⟨3, 4, fun _ => 2, fun _ _ _ => false⟩

def unloaded : State 4 := ⟨⟨.zeroed, 0, []⟩, 0, [], 0, [], []⟩

lemma fresh_unloaded : unloaded.Fresh := ⟨rfl, rfl, fun _ => rfl, fun _ => rfl⟩

def eth0 : Text := "eth0".toList

def reload (text : String) : Call := ⟨some text.toList, 0, true⟩

def apart : List Call :=
  [reload "interface=eth0\nip_blacklist=10.0.0.1/24,10.1.0.2/16", reload "interface=eth0\nip_blacklist=10.0.0.1/24"]

theorem blacklist_sync_rebuilds_apart :
    ¬ (runAll quiet unloaded apart).Covers 0x0A010005#32 ∧
    ∀ x ∈ moments quiet unloaded apart, ∃ (list : Text) (new : List SubnetNode), ListsSubnets eth0 x.2 list ∧
      (entriesOf list).map parseSubnet = new.map Parsed.entry ∧
      ∀ a, (x.1.step quiet x.2).Covers a ↔ ∃ node ∈ new, node.network.Contains a := by
  refine ⟨by decide +kernel, blacklist_sync_rebuilds (by decide) fresh_unloaded (Or.inl rfl) apart ?_
    (by decide +kernel) (by decide +kernel)⟩
  intro c hc
  rcases List.mem_pair.mp hc with rfl | rfl
  · exact ⟨"10.0.0.1/24,10.1.0.2/16".toList, by decide +kernel⟩
  · exact ⟨"10.0.0.1/24".toList, by decide +kernel⟩

def overlapping : List Call :=
  [reload "interface=eth0\nip_blacklist=10.0.0.1/24,10.0.0.2/24", reload "interface=eth0\nip_blacklist=10.0.0.1/24"]

theorem kept_subnet_lost :
    unloaded.Fresh ∧ (∀ c ∈ overlapping, ∃ list, ListsSubnets eth0 c list) ∧
    (∀ x ∈ moments quiet unloaded overlapping, x.1.Succeeds quiet x.2) ∧
    ∃ node, parseSubnet "10.0.0.1/24".toList = .entry node ∧
      (runAll quiet unloaded overlapping).currentBlacklistSubnets = [node] ∧ node.network.Contains 0x0A000005#32 ∧
      ¬ (runAll quiet unloaded overlapping).Covers 0x0A000005#32 := by
  refine ⟨fresh_unloaded, ?_, by decide +kernel, ⟨⟨24#32, 0x0A000001#32⟩, by decide⟩, by decide +kernel⟩
  intro c hc
  rcases List.mem_pair.mp hc with rfl | rfl
  · exact ⟨"10.0.0.1/24,10.0.0.2/24".toList, by decide +kernel⟩
  · exact ⟨"10.0.0.1/24".toList, by decide +kernel⟩

end Blacklist

section Rates

variable {env} {s : State N}

lemma limits_runs (calls : List Call) (hfiles : ∀ c ∈ calls, c.limits?.isSome)
    (haccepts : ∀ x ∈ moments env s calls, x.1.Accepts env x.2)
    (hok : ∀ x ∈ moments env s calls, x.1.Succeeds env x.2)
    (hb : (view s.host.settings).limits = rebuilt (s.currentRateLimits.map RateLimit.entry)) :
    (∀ x ∈ moments env s calls, ∀ new ∈ x.2.limits?,
      (view (x.1.step env x.2).host.settings).limits = rebuilt (new.map RateLimit.entry)) ↔
    ∀ x ∈ moments env s calls, ∀ new ∈ x.2.limits?,
      Steady (x.1.currentRateLimits.map RateLimit.entry) (new.map RateLimit.entry) := by
  induction calls generalizing s with
  | nil => simp [moments]
  | cons c cs ih =>
    obtain ⟨new, hnew⟩ := Option.isSome_iff_exists.mp (hfiles c List.mem_cons_self)
    have ha := haccepts (s, c) List.mem_cons_self
    have hstep := State.limits_step ha (hok (s, c) List.mem_cons_self) hnew
    rw [hb] at hstep
    have htracked : (s.step env c).currentRateLimits = new := by
      rw [(State.step_of_accepts ha).2.2.2, hnew, Option.getD_some]
    have hhead : (view (s.step env c).host.settings).limits = rebuilt (new.map RateLimit.entry) ↔
        Steady (s.currentRateLimits.map RateLimit.entry) (new.map RateLimit.entry) := by
      rw [hstep]
      exact ⟨steady_of_resynced, resynced_rebuilt⟩
    have htail (hb' : (view (s.step env c).host.settings).limits = rebuilt (new.map RateLimit.entry)) :=
      ih (fun c hc => hfiles c (List.mem_cons_of_mem _ hc)) (fun x hx => haccepts x (List.mem_cons_of_mem _ hx))
        (fun x hx => hok x (List.mem_cons_of_mem _ hx)) (htracked ▸ hb')
    simp only [moments, List.forall_mem_cons, hnew, Option.mem_def, Option.some.injEq, forall_eq']
    rw [hhead]
    exact and_congr_right (fun hst => htail (hhead.mpr hst))

theorem rate_sync_rebuilds_iff {env : Env N} {s : State N} (hs : s.Fresh) (calls : List Call)
    (hfiles : ∀ c ∈ calls, ∃ f ∈ c.fields, f.rateLimits.isSome)
    (haccepts : ∀ x ∈ moments env s calls, x.1.Accepts env x.2)
    (hok : ∀ x ∈ moments env s calls, x.1.Succeeds env x.2) :
    (∀ x ∈ moments env s calls, ∃ new, x.2.limits? = some new ∧
      ∀ a, (x.1.step env x.2).host.settings.ipRateLimits.get? a = rebuilt (new.map RateLimit.entry) a) ↔
    ∀ x ∈ moments env s calls, ∀ new ∈ x.2.limits?,
      Steady (x.1.currentRateLimits.map RateLimit.entry) (new.map RateLimit.entry) := by
  have hsome (c : Call) (hc : c ∈ calls) : c.limits?.isSome := by
    obtain ⟨f, hf, hr⟩ := hfiles c hc
    have hf' : c.fields = some f := hf
    simpa [Call.limits?, hf', Fields.newRateLimits] using hr
  rw [← limits_runs calls hsome haccepts hok hs.limits_eq]
  constructor
  · intro h x hx new hn
    obtain ⟨new', hn', ha⟩ := h x hx
    cases Option.mem_unique hn' hn
    exact funext ha
  · intro h x hx
    obtain ⟨new, hn⟩ := Option.isSome_iff_exists.mp (hsome x.2 (mem_calls_of_moments hx))
    exact ⟨new, hn, congrFun (h x hx new hn)⟩

def raised : List Call :=
  [reload "interface=eth0\nip_rate_limits=10.0.0.1:1,10.0.0.2:5", reload "interface=eth0\nip_rate_limits=10.0.0.1:2"]

theorem rate_sync_rebuilds_raised :
    (runAll quiet unloaded raised).host.settings.ipRateLimits.get? 0x0A000001#32 = some ⟨2#32, 500000000#64⟩ ∧
    ∀ x ∈ moments quiet unloaded raised, ∃ new, x.2.limits? = some new ∧
      ∀ a, (x.1.step quiet x.2).host.settings.ipRateLimits.get? a = rebuilt (new.map RateLimit.entry) a := by
  refine ⟨by decide +kernel, ?_⟩
  exact (rate_sync_rebuilds_iff fresh_unloaded raised (by decide +kernel) (by decide +kernel)
    (by decide +kernel)).mpr (by decide +kernel)

def repeated : Call := reload "interface=eth0\nip_rate_limits=10.0.0.1:1,10.0.0.1:2,10.0.0.1:1"

theorem unchanged_file_changes_limit :
    unloaded.Fresh ∧ (∀ c ∈ [repeated, repeated], ∃ f ∈ c.fields, f.rateLimits.isSome) ∧
    (∀ x ∈ moments quiet unloaded [repeated, repeated], x.1.Accepts quiet x.2 ∧ x.1.Succeeds quiet x.2) ∧
    repeated.limits?.map (fun new => rebuilt (new.map RateLimit.entry) 0x0A000001#32) =
      some (some ⟨1#32, 1000000000#64⟩) ∧
    (runAll quiet unloaded [repeated]).host.settings.ipRateLimits.get? 0x0A000001#32 =
      some ⟨1#32, 1000000000#64⟩ ∧
    (runAll quiet unloaded [repeated, repeated]).host.settings.ipRateLimits.get? 0x0A000001#32 =
      some ⟨2#32, 500000000#64⟩ :=
  ⟨fresh_unloaded, by decide +kernel, by decide +kernel, by decide +kernel, by decide +kernel, by decide +kernel⟩

end Rates

end Runs

end PacketFilter.Engine
