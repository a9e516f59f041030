import PacketFilter.Engine.Runs
import PacketFilter.Library.LinkedLists

/-! The linked lists of packet_filter.cpp: reloading on nodes does what it does on lists, and leaks none. -/

namespace PacketFilter.Engine

open Library Library.Programs Library.Scanning Library.LinkedLists Kernel Prog
open Config (Sys SysProg Faults Host)

variable {N : ℕ}

structure Process (N : ℕ) where
  host : Host N
  updateSignal : BitVec 64
  filterInterfaceName : Text
  currentIfindex : BitVec 32
  subnetNodes : Heap BpfTrieKey
  rateLimitNodes : Heap RateLimit
  currentBlacklistSubnets : Option ℕ
  currentRateLimits : Option ℕ

structure Allocators where
  subnets : Allocator BpfTrieKey
  limits : Allocator RateLimit

def freeSubnetList : ℕ → Option ℕ → Heap BpfTrieKey → Option (Heap BpfTrieKey) := freeList

def freeRateLimitList : ℕ → Option ℕ → Heap RateLimit → Option (Heap RateLimit) := freeList

/-- The nodes for the entries of a list; an entry that throws leaves those made so far behind. -/
def readSubnets (alloc : Allocator BpfTrieKey) :
    List Text → Chain → Heap BpfTrieKey → Option (Option Chain × Heap BpfTrieKey)
  | [], c, h => some (some c, h)
  | subnet :: rest, c, h =>
    match parseSubnet subnet with
    | .threw => some (none, h)
    | .invalid => readSubnets alloc rest c h
    | .entry node => (c.push alloc node.key h).bind (fun r => readSubnets alloc rest r.1 r.2)

def readRateLimits (alloc : Allocator RateLimit) :
    List Text → Chain → Heap RateLimit → Option (Chain × Heap RateLimit)
  | [], c, h => some (c, h)
  | entry :: rest, c, h =>
    match parseRateLimit entry with
    | none => readRateLimits alloc rest c h
    | some limit => (c.push alloc limit h).bind (fun r => readRateLimits alloc rest r.1 r.2)

def sameKey (key other : BpfTrieKey) : Bool := key.ip = other.ip ∧ key.prefixlen = other.prefixlen

namespace Process

variable (alloc : Allocators) (env : Env N) (fuel : ℕ)

def perform {α : Type} (p : SysProg α) (s : Process N) : α × Process N :=
  ((run (Sys.exec env.faults) p s.host).1, { s with host := (run (Sys.exec env.faults) p s.host).2 })

def setInterface (ifaceName : Text) (s : Process N) : Bool × Process N :=
  if s.filterInterfaceName = [] then
    (env.ifNametoindex ifaceName ≠ 0,
      { s with filterInterfaceName := ifaceName, currentIfindex := env.ifNametoindex ifaceName })
  else (s.filterInterfaceName = ifaceName, s)

def parseSubnetList (list : Option Text) (s : Process N) : Option (Option Chain × Process N) :=
  match list with
  | none => some (some .empty, s)
  | some list =>
    (readSubnets alloc.subnets (entriesOf list) .empty s.subnetNodes).map
      (fun r => (r.1, { s with subnetNodes := r.2 }))

def parseRateLimitList (list : Option Text) (s : Process N) : Option (Chain × Process N) :=
  match list with
  | none => some (.empty, s)
  | some list =>
    (readRateLimits alloc.limits (entriesOf list) .empty s.rateLimitNodes).map
      (fun r => (r.1, { s with rateLimitNodes := r.2 }))

def removeUnless (found : Option BpfTrieKey) (key : BpfTrieKey) (s : Process N) : Bool × Process N :=
  if found.isSome then (true, s) else (true, (s.perform env (removeFromBlacklist env.mapFdBlacklistSubnets key)).2)

def addUnless (found : Option BpfTrieKey) (key : BpfTrieKey) (s : Process N) : Bool × Process N :=
  if found.isSome then (true, s)
  else
    let r := s.perform env (addToBlacklist env.mapFdBlacklistSubnets (subnetStrBuf key))
    (r.1 ≠ .threw, r.2)

def syncBlacklist (newSubnetsList : Option ℕ) (s : Process N) : Option (Outcome × Process N) := do
  let removed ← forEach subnetNodes (fun key s =>
    (search (sameKey key) fuel newSubnetsList s.subnetNodes).map (fun found => s.removeUnless env found key))
    fuel s.currentBlacklistSubnets s
  let added ← forEach subnetNodes (fun key s =>
    (search (sameKey key) fuel s.currentBlacklistSubnets s.subnetNodes).map
    (fun found => s.addUnless env found key))
    fuel newSubnetsList removed.2
  if added.1 then
    let nodes ← freeSubnetList fuel added.2.currentBlacklistSubnets added.2.subnetNodes
    return (.returned 0, { added.2 with subnetNodes := nodes, currentBlacklistSubnets := newSubnetsList })
  else return (.threw, added.2)

def removeLimitUnless (found : Option RateLimit) (limit : RateLimit) (s : Process N) : Bool × Process N :=
  if found.isSome then (true, s)
  else (true, (s.perform env (removeFromRateLimits env.mapFdRateLimits limit.ip)).2)

/-- The loop that looks for the address breaks at its first node, also when only a later one has the same rate. -/
def addLimitUnless (found : Option RateLimit) (limit : RateLimit) (s : Process N) : Bool × Process N :=
  if found.all (fun tracked => limit.pps ≠ tracked.pps)
  then (true, (s.perform env (addToRateLimits env.mapFdRateLimits limit)).2) else (true, s)

def syncRates (newRateLimitsList : Option ℕ) (s : Process N) : Option (Process N) := do
  let removed ← forEach rateLimitNodes (fun limit s =>
    (search (fun other => limit.ip = other.ip) fuel newRateLimitsList s.rateLimitNodes).map
      (fun found => s.removeLimitUnless env found limit)) fuel s.currentRateLimits s
  let added ← forEach rateLimitNodes (fun limit s =>
    (search (fun other => limit.ip = other.ip) fuel s.currentRateLimits s.rateLimitNodes).map
      (fun found => s.addLimitUnless env found limit)) fuel newRateLimitsList removed.2
  let nodes ← freeRateLimitList fuel added.2.currentRateLimits added.2.rateLimitNodes
  return { added.2 with rateLimitNodes := nodes, currentRateLimits := newRateLimitsList }

def signal (call : Call) (s : Process N) : Process N :=
  if call.signalled then { s with updateSignal := call.now } else s

def syncSubnetsIf (found : Bool) (newSubnetsList : Option ℕ) (s : Process N) : Option (Outcome × Process N) :=
  if found then s.syncBlacklist env fuel newSubnetsList else some (.returned 0, s)

def syncRatesIf (found : Bool) (newRateLimitsList : Option ℕ) (s : Process N) : Option (Process N) :=
  if found then s.syncRates env fuel newRateLimitsList else some s

def sync (f : Fields) (newSubnetsList newRateLimitsList : Option ℕ) (call : Call) (s : Process N) :
    Option (Outcome × Process N) := do
  match ← s.syncSubnetsIf env fuel f.subnetList.isSome newSubnetsList with
  | (.threw, s) => return (.threw, s)
  | (.returned _, s) =>
    let s ← s.syncRatesIf env fuel f.rateLimits.isSome newRateLimitsList
    return (.returned 0, s.signal call)

/-- The part after the check of the interface: both lists are parsed before either is synchronised. -/
def replaceLists (f : Fields) (call : Call) (s : Process N) : Option (Outcome × Process N) := do
  match ← s.parseSubnetList alloc f.subnetList with
  | (none, s) => return (.threw, s)
  | (some newSubnets, s) =>
    let limits ← s.parseRateLimitList alloc f.rateLimits
    limits.2.sync env fuel f newSubnets.head limits.1.head call

def updateFromConfig (call : Call) (s : Process N) : Option (Outcome × Process N) :=
  match call.file with
  | none => some (.returned (-1), s)
  | some text =>
    match (fieldsOf text).ifaceName with
    | none => some (.returned (-1), s)
    | some ifaceName =>
      match s.setInterface env ifaceName with
      | (false, s) => some (.returned (-1), s)
      | (true, s) => s.replaceLists alloc env fuel (fieldsOf text) call

def reloads : List Call → Process N → Option (Outcome × Process N)
  | [], s => some (.returned 0, s)
  | c :: calls, s => do
    match ← s.updateFromConfig alloc env fuel c with
    | (.threw, s) => return (.threw, s)
    | (.returned _, s) => reloads calls s

def cleanup (s : Process N) : Option (Process N) := do
  let subnets ← freeSubnetList fuel s.currentBlacklistSubnets s.subnetNodes
  let limits ← freeRateLimitList fuel s.currentRateLimits s.rateLimitNodes
  return { s with subnetNodes := subnets, rateLimitNodes := limits }

end Process

def State.reloads (env : Env N) : List Call → State N → Outcome × State N
  | [], s => (.returned 0, s)
  | c :: calls, s =>
    match s.updateFromConfig env c with
    | (.threw, s) => (.threw, s)
    | (.returned _, s) => State.reloads env calls s

def State.process (s : State N) : Process N :=
  ⟨s.host, s.updateSignal, s.filterInterfaceName, s.currentIfindex, ∅, ∅, none, none⟩

structure Agrees (p : Process N) (s : State N) : Prop where
  host : p.host = s.host
  updateSignal : p.updateSignal = s.updateSignal
  filterInterfaceName : p.filterInterfaceName = s.filterInterfaceName
  currentIfindex : p.currentIfindex = s.currentIfindex

structure Represents (p : Process N) (s : State N) : Prop where
  agrees : Agrees p s
  subnets : ∃ cells, Exactly p.subnetNodes p.currentBlacklistSubnets cells ∧
    values cells = s.currentBlacklistSubnets.map SubnetNode.key
  limits : ∃ cells, Exactly p.rateLimitNodes p.currentRateLimits cells ∧ values cells = s.currentRateLimits

def Simulates (x : Option (Outcome × Process N)) (r : Outcome × State N) : Prop :=
  ∃ p, x = some (r.1, p) ∧ Agrees p r.2 ∧ (r.1 ≠ .threw → Represents p r.2)

section Parsing

variable {α : Type} {p : Option ℕ} {c : Chain}

lemma readSubnets_building (alloc : Allocator BpfTrieKey) (entries : List Text) {h : Heap BpfTrieKey}
    {old fresh : List (ℕ × BpfTrieKey)} (hb : Building h p old c fresh) :
    match parseSubnets entries with
    | none => ∃ h', readSubnets alloc entries c h = some (none, h')
    | some new => ∃ c' h' fresh', readSubnets alloc entries c h = some (some c', h') ∧
        Building h' p old c' fresh' ∧ values fresh' = values fresh ++ new.map SubnetNode.key := by
  induction entries generalizing c h fresh with
  | nil => exact ⟨c, h, fresh, rfl, hb, by simp⟩
  | cons subnet rest ih =>
    simp only [parseSubnets, readSubnets]
    cases parseSubnet subnet with
    | threw => exact ⟨h, rfl⟩
    | invalid => exact ih hb
    | entry node =>
      obtain ⟨c', h', hpush, hb'⟩ := hb.push alloc node.key
      have hrest := ih hb'
      simp only [hpush, Option.bind_some]
      cases hp : parseSubnets rest with
      | none =>
        rw [hp] at hrest
        exact hrest
      | some new =>
        rw [hp] at hrest
        obtain ⟨c'', h'', fresh', hread, hb'', hv⟩ := hrest
        exact ⟨c'', h'', fresh', hread, hb'', by rw [hv]; simp [values]⟩

lemma readRateLimits_building (alloc : Allocator RateLimit) (entries : List Text) {h : Heap RateLimit}
    {old fresh : List (ℕ × RateLimit)} (hb : Building h p old c fresh) :
    ∃ c' h' fresh', readRateLimits alloc entries c h = some (c', h') ∧ Building h' p old c' fresh' ∧
      values fresh' = values fresh ++ parseRateLimits entries := by
  induction entries generalizing c h fresh with
  | nil => exact ⟨c, h, fresh, rfl, hb, by simp [parseRateLimits]⟩
  | cons entry rest ih =>
    simp only [parseRateLimits, List.filterMap_cons, readRateLimits]
    cases parseRateLimit entry with
    | none => exact ih hb
    | some limit =>
      obtain ⟨c', h', hpush, hb'⟩ := hb.push alloc limit
      obtain ⟨c'', h'', fresh', hread, hb'', hv⟩ := ih hb'
      exact ⟨c'', h'', fresh', by simp [hpush, hread], hb'', by rw [hv]; simp [values, parseRateLimits]⟩

end Parsing

section Loops

variable (env : Env N)

lemma isSome_find_sameKey (node : SubnetNode) (nodes : List SubnetNode) :
    ((nodes.map SubnetNode.key).find? (sameKey node.key)).isSome ↔ node ∈ nodes := by
  have hsame (other : SubnetNode) : sameKey node.key other.key = true ↔ node = other := by
    obtain ⟨⟨n, a⟩, hn⟩ := node
    obtain ⟨⟨m, b⟩, hm⟩ := other
    simp [sameKey, and_comm]
  rw [List.find?_isSome]
  simp [hsame]

lemma isSome_find_ip (limit : RateLimit) (limits : List RateLimit) :
    (limits.find? (fun other => limit.ip = other.ip)).isSome = limits.any (·.ip = limit.ip) := by
  have hcomm (other : RateLimit) : limit.ip = other.ip ↔ other.ip = limit.ip := eq_comm
  rw [Bool.eq_iff_iff, List.find?_isSome, List.any_eq_true]
  simp only [hcomm]

lemma needsUpdate_find (current : List RateLimit) (limit : RateLimit) :
    (current.find? (fun other => limit.ip = other.ip)).all (fun tracked => limit.pps ≠ tracked.pps) =
      needsUpdate current limit := by
  have htest : (fun other : RateLimit => decide (limit.ip = other.ip)) =
      (fun other => decide (other.ip = limit.ip)) := by
    funext other
    simp [eq_comm]
  rw [needsUpdate, htest]
  cases current.find? (fun other => decide (other.ip = limit.ip)) <;> rfl

namespace Process

variable {fuel : ℕ} {s : Process N}

lemma perform_bind {α β : Type} (p : SysProg α) (f : α → SysProg β) (s : Process N) :
    s.perform env (p >>= f) = (s.perform env p).2.perform env (f (s.perform env p).1) := by
  simp only [perform, run_bind]

lemma removeUnless_each (nodes current : List SubnetNode) (s : Process N) :
    eachOf (fun key s => s.removeUnless env ((nodes.map SubnetNode.key).find? (sameKey key)) key)
      (current.map SubnetNode.key) s =
    (true, (s.perform env (removeSubnets env.mapFdBlacklistSubnets nodes current)).2) := by
  induction current generalizing s with
  | nil => rfl
  | cons node rest ih =>
    rw [List.map_cons, eachOf, removeSubnets, removeUnless]
    by_cases hm : node ∈ nodes
    · rw [if_pos ((isSome_find_sameKey node nodes).mpr hm), if_neg (not_not.mpr hm)]
      exact ih s
    · rw [if_neg (fun h => hm ((isSome_find_sameKey node nodes).mp h)), if_pos hm]
      rw [if_pos rfl, ih, perform_bind]

lemma addUnless_each (current nodes : List SubnetNode) (s : Process N) :
    eachOf (fun key s => s.addUnless env ((current.map SubnetNode.key).find? (sameKey key)) key)
      (nodes.map SubnetNode.key) s =
    (true, (s.perform env (addSubnets env.mapFdBlacklistSubnets current nodes)).2) := by
  induction nodes generalizing s with
  | nil => rfl
  | cons node rest ih =>
    rw [List.map_cons, eachOf, addSubnets, addUnless]
    by_cases hm : node ∈ current
    · rw [if_pos ((isSome_find_sameKey node current).mpr hm), if_neg (not_not.mpr hm)]
      exact ih s
    · rw [if_neg (fun h => hm ((isSome_find_sameKey node current).mp h)), if_pos hm]
      obtain ⟨code, hc⟩ := returned_addToBlacklist env.faults env.mapFdBlacklistSubnets node s.host
      have hc' : (s.perform env (addToBlacklist env.mapFdBlacklistSubnets (subnetStrBuf node.key))).1 =
          .returned code := hc
      rw [if_pos (by simp [hc']), ih, perform_bind]
      simp only [hc']

lemma removeLimitUnless_each (new current : List RateLimit) (s : Process N) :
    eachOf (fun limit s => s.removeLimitUnless env
      (new.find? (fun other => limit.ip = other.ip)) limit) current s =
    (true, (s.perform env (removeRates env.mapFdRateLimits new current)).2) := by
  induction current generalizing s with
  | nil => rfl
  | cons limit rest ih =>
    rw [eachOf, removeRates, removeLimitUnless, isSome_find_ip]
    by_cases hm : new.any (·.ip = limit.ip) = true
    · rw [if_pos hm, if_pos hm]
      exact ih s
    · rw [if_neg hm, if_neg hm]
      rw [if_pos rfl, ih, perform_bind]

lemma addLimitUnless_each (current new : List RateLimit) (s : Process N) :
    eachOf (fun limit s => s.addLimitUnless env (current.find? (fun other => limit.ip = other.ip)) limit) new s =
    (true, (s.perform env (addRates env.mapFdRateLimits current new)).2) := by
  induction new generalizing s with
  | nil => rfl
  | cons limit rest ih =>
    rw [eachOf, addRates, addLimitUnless, needsUpdate_find]
    by_cases hu : needsUpdate current limit = true
    · rw [if_pos hu, if_pos hu]
      rw [if_pos rfl, ih, perform_bind]
    · rw [if_neg hu, if_neg hu]
      exact ih s

structure Kept (s t : Process N) : Prop where
  subnetNodes : t.subnetNodes = s.subnetNodes
  rateLimitNodes : t.rateLimitNodes = s.rateLimitNodes
  currentBlacklistSubnets : t.currentBlacklistSubnets = s.currentBlacklistSubnets
  currentRateLimits : t.currentRateLimits = s.currentRateLimits

lemma Kept.refl (s : Process N) : Kept s s := ⟨rfl, rfl, rfl, rfl⟩

lemma Kept.perform {s t : Process N} (hk : Kept s t) {α : Type} (p : SysProg α) : Kept s (t.perform env p).2 :=
  ⟨hk.subnetNodes, hk.rateLimitNodes, hk.currentBlacklistSubnets, hk.currentRateLimits⟩

lemma Kept.ite {s t u : Process N} {p : Prop} [Decidable p] {a b : Bool} (ht : Kept s t) (hu : Kept s u) :
    Kept s (if p then (a, t) else (b, u)).2 := by
  split_ifs
  · exact ht
  · exact hu

lemma syncBlacklist_building {c : Chain} {old fresh : List (ℕ × BpfTrieKey)} {current nodes : List SubnetNode}
    (hb : Building s.subnetNodes s.currentBlacklistSubnets old c fresh)
    (hold : values old = current.map SubnetNode.key) (hfresh : values fresh = nodes.map SubnetNode.key)
    (h1 : old.length ≤ fuel) (h2 : fresh.length ≤ fuel) :
    ∃ h, Exactly h c.head fresh ∧ s.syncBlacklist env fuel c.head = some (.returned 0,
      { (s.perform env (Engine.syncBlacklist env.mapFdBlacklistSubnets current nodes)).2 with
        subnetNodes := h, currentBlacklistSubnets := c.head }) := by
  have hheap : ∀ t, Kept s t → t.subnetNodes = s.subnetNodes := fun t hk => hk.subnetNodes
  have hremove : ∀ key t, Kept s t →
      (search (sameKey key) fuel c.head t.subnetNodes).map (fun found => t.removeUnless env found key) =
        some (t.removeUnless env ((nodes.map SubnetNode.key).find? (sameKey key)) key) ∧
      Kept s (t.removeUnless env ((nodes.map SubnetNode.key).find? (sameKey key)) key).2 := by
    intro key t hk
    rw [hk.subnetNodes, search_segment _ hb.chained h2, hfresh]
    exact ⟨rfl, hk.ite (hk.perform env _)⟩
  have hadd : ∀ key t, Kept s t →
      (search (sameKey key) fuel t.currentBlacklistSubnets t.subnetNodes).map
        (fun found => t.addUnless env found key) =
        some (t.addUnless env ((current.map SubnetNode.key).find? (sameKey key)) key) ∧
      Kept s (t.addUnless env ((current.map SubnetNode.key).find? (sameKey key)) key).2 := by
    intro key t hk
    rw [hk.subnetNodes, hk.currentBlacklistSubnets, search_segment _ hb.settled h1, hold]
    exact ⟨rfl, hk.ite (hk.perform env _)⟩
  obtain ⟨hfirst, hk1⟩ := forEach_segment hheap hremove hb.settled h1 (Kept.refl s)
  rw [hold, removeUnless_each] at hfirst hk1
  dsimp only at hk1
  obtain ⟨hsecond, hk2⟩ := forEach_segment hheap hadd hb.chained h2 hk1
  have hrun := perform_bind env (removeSubnets env.mapFdBlacklistSubnets nodes current)
    (fun _ => addSubnets env.mapFdBlacklistSubnets current nodes) s
  rw [hfresh, addUnless_each, ← hrun] at hsecond hk2
  dsimp only at hk2
  obtain ⟨h, hfree, hexact⟩ := hb.free h1
  refine ⟨h, hexact, ?_⟩
  simp only [syncBlacklist, hfirst, hsecond, Option.bind_eq_bind, Option.bind_some, if_true, hk2.subnetNodes,
    hk2.currentBlacklistSubnets, freeSubnetList, hfree, Option.pure_def, Engine.syncBlacklist]

lemma syncRates_building {c : Chain} {old fresh : List (ℕ × RateLimit)}
    (hb : Building s.rateLimitNodes s.currentRateLimits old c fresh) (h1 : old.length ≤ fuel)
    (h2 : fresh.length ≤ fuel) :
    ∃ h, Exactly h c.head fresh ∧ s.syncRates env fuel c.head = some
      { (s.perform env (Engine.syncRates env.mapFdRateLimits (values old) (values fresh))).2 with
        rateLimitNodes := h, currentRateLimits := c.head } := by
  have hheap : ∀ t, Kept s t → t.rateLimitNodes = s.rateLimitNodes := fun t hk => hk.rateLimitNodes
  have hremove : ∀ (limit : RateLimit) t, Kept s t →
      (search (fun other => limit.ip = other.ip) fuel c.head t.rateLimitNodes).map
        (fun found => t.removeLimitUnless env found limit) =
        some (t.removeLimitUnless env ((values fresh).find? (fun other => limit.ip = other.ip)) limit) ∧
      Kept s (t.removeLimitUnless env ((values fresh).find? (fun other => limit.ip = other.ip)) limit).2 := by
    intro limit t hk
    rw [hk.rateLimitNodes, search_segment _ hb.chained h2]
    exact ⟨rfl, hk.ite (hk.perform env _)⟩
  have hadd : ∀ (limit : RateLimit) t, Kept s t →
      (search (fun other => limit.ip = other.ip) fuel t.currentRateLimits t.rateLimitNodes).map
        (fun found => t.addLimitUnless env found limit) =
        some (t.addLimitUnless env ((values old).find? (fun other => limit.ip = other.ip)) limit) ∧
      Kept s (t.addLimitUnless env ((values old).find? (fun other => limit.ip = other.ip)) limit).2 := by
    intro limit t hk
    rw [hk.rateLimitNodes, hk.currentRateLimits, search_segment _ hb.settled h1]
    exact ⟨rfl, (hk.perform env _).ite hk⟩
  obtain ⟨hfirst, hk1⟩ := forEach_segment hheap hremove hb.settled h1 (Kept.refl s)
  rw [removeLimitUnless_each] at hfirst hk1
  dsimp only at hk1
  obtain ⟨hsecond, hk2⟩ := forEach_segment hheap hadd hb.chained h2 hk1
  have hrun := perform_bind env (removeRates env.mapFdRateLimits (values fresh) (values old))
    (fun _ => addRates env.mapFdRateLimits (values old) (values fresh)) s
  rw [addLimitUnless_each, ← hrun] at hsecond hk2
  dsimp only at hk2
  obtain ⟨h, hfree, hexact⟩ := hb.free h1
  refine ⟨h, hexact, ?_⟩
  simp only [syncRates, hfirst, hsecond, Option.bind_eq_bind, Option.bind_some, hk2.rateLimitNodes,
    hk2.currentRateLimits, freeRateLimitList, hfree, Option.pure_def, Engine.syncRates]

end Process

end Loops

structure Pending (p : Process N) (s : State N) (c d : Chain) (nodes : List SubnetNode) (limits : List RateLimit) :
    Prop where
  agrees : Agrees p s
  subnets : ∃ old fresh, Building p.subnetNodes p.currentBlacklistSubnets old c fresh ∧
    values old = s.currentBlacklistSubnets.map SubnetNode.key ∧ values fresh = nodes.map SubnetNode.key
  limits : ∃ old fresh, Building p.rateLimitNodes p.currentRateLimits old d fresh ∧
    values old = s.currentRateLimits ∧ values fresh = limits

section Stages

variable {env : Env N} {fuel : ℕ} {p : Process N} {s : State N} {c d : Chain} {nodes : List SubnetNode}
  {limits : List RateLimit}

lemma Represents.pending (hr : Represents p s) : Pending p s .empty .empty [] [] := by
  obtain ⟨subnets, hsub, hv⟩ := hr.subnets
  obtain ⟨limits, hlim, hw⟩ := hr.limits
  exact ⟨hr.agrees, ⟨subnets, [], hsub.building, hv, rfl⟩, ⟨limits, [], hlim.building, hw, rfl⟩⟩

lemma Pending.represents (hp : Pending p s c d [] []) : Represents p s := by
  obtain ⟨subnets, fresh, hsub, hv, hf⟩ := hp.subnets
  obtain rfl : fresh = [] := List.map_eq_nil_iff.mp hf
  obtain ⟨limits, fresh, hlim, hw, hf⟩ := hp.limits
  obtain rfl : fresh = [] := List.map_eq_nil_iff.mp hf
  exact ⟨hp.agrees, ⟨subnets, hsub.exactly, hv⟩, ⟨limits, hlim.exactly, hw⟩⟩

lemma Pending.syncBlacklist (hp : Pending p s c d nodes limits) (h1 : s.currentBlacklistSubnets.length ≤ fuel)
    (h2 : nodes.length ≤ fuel) :
    ∃ p', p.syncBlacklist env fuel c.head = some (.returned 0, p') ∧
      Pending p' (s.applySubnets env nodes).2 .empty d [] limits := by
  obtain ⟨old, fresh, hb, hold, hfresh⟩ := hp.subnets
  rw [← List.length_map SubnetNode.key, ← hold, length_values] at h1
  rw [← List.length_map SubnetNode.key, ← hfresh, length_values] at h2
  obtain ⟨h, hexact, hsync⟩ := Process.syncBlacklist_building env hb hold hfresh h1 h2
  refine ⟨_, hsync, ?_, ⟨fresh, [], hexact.building, ?_, rfl⟩, ?_⟩
  · rw [State.applySubnets_eq]
    refine ⟨?_, hp.agrees.updateSignal, hp.agrees.filterInterfaceName, hp.agrees.currentIfindex⟩
    simp only [Process.perform, hp.agrees.host]
  · rw [State.applySubnets_eq]
    exact hfresh
  · rw [State.applySubnets_eq]
    exact hp.limits

lemma Pending.syncRates (hp : Pending p s c d [] limits) (h1 : s.currentRateLimits.length ≤ fuel)
    (h2 : limits.length ≤ fuel) :
    ∃ p', p.syncRates env fuel d.head = some p' ∧ Represents p' (s.applyRates env limits) := by
  obtain ⟨old, fresh, hb, hold, hfresh⟩ := hp.limits
  rw [← hold, length_values] at h1
  rw [← hfresh, length_values] at h2
  obtain ⟨h, hexact, hsync⟩ := Process.syncRates_building env hb h1 h2
  rw [hold, hfresh] at hsync
  obtain ⟨subnets, empty, hsub, hv, hf⟩ := hp.subnets
  obtain rfl : empty = [] := List.map_eq_nil_iff.mp hf
  refine ⟨_, hsync, ?_, ⟨subnets, hsub.exactly, hv⟩, ⟨fresh, hexact, hfresh⟩⟩
  refine ⟨?_, hp.agrees.updateSignal, hp.agrees.filterInterfaceName, hp.agrees.currentIfindex⟩
  simp only [Process.perform, State.applyRates, hp.agrees.host]

lemma Represents.signal (hr : Represents p s) (call : Call) : Represents (p.signal call) (s.signal call) := by
  unfold Process.signal State.signal
  split_ifs
  · exact ⟨⟨hr.agrees.host, rfl, hr.agrees.filterInterfaceName, hr.agrees.currentIfindex⟩, hr.subnets, hr.limits⟩
  · exact hr

def State.demand (s : State N) (call : Call) : ℕ :=
  s.currentBlacklistSubnets.length + s.currentRateLimits.length + (call.subnets?.getD []).length +
    (call.limits?.getD []).length

lemma Pending.sync {f : Fields} {subnets : Option (List SubnetNode)} (call : Call)
    (hsub : f.newSubnets = some subnets) (hp : Pending p s c d (subnets.getD []) (f.newRateLimits.getD []))
    (h1 : s.currentBlacklistSubnets.length ≤ fuel) (h2 : (subnets.getD []).length ≤ fuel)
    (h3 : s.currentRateLimits.length ≤ fuel) (h4 : (f.newRateLimits.getD []).length ≤ fuel) :
    ∃ p', p.sync env fuel f c.head d.head call = some ((s.sync env subnets f.newRateLimits call).1, p') ∧
      Represents p' (s.sync env subnets f.newRateLimits call).2 := by
  rw [State.sync_eq]
  -- the blacklist: without its field nothing was parsed for it
  obtain ⟨p₁, hblacklist, hp₁⟩ : ∃ p₁,
      p.syncSubnetsIf env fuel f.subnetList.isSome c.head = some (.returned 0, p₁) ∧
      Pending p₁ (subnets.elim s (fun new => (s.applySubnets env new).2)) .empty d []
        (f.newRateLimits.getD []) := by
    cases hlist : f.subnetList with
    | none =>
      obtain rfl : none = subnets := by simpa [Fields.newSubnets, hlist] using hsub
      obtain ⟨old, fresh, hb, hold, hf⟩ := hp.subnets
      obtain rfl : fresh = [] := List.map_eq_nil_iff.mp hf
      exact ⟨p, rfl, hp.agrees, ⟨old, [], hb.exactly.building, hold, rfl⟩, hp.limits⟩
    | some list =>
      obtain ⟨new, -, rfl⟩ : ∃ new, parseSubnets (entriesOf list) = some new ∧ some new = subnets := by
        simpa [Fields.newSubnets, hlist] using hsub
      exact hp.syncBlacklist h1 h2
  have hlimits : (subnets.elim s (fun new => (s.applySubnets env new).2)).currentRateLimits =
      s.currentRateLimits := by
    cases subnets with
    | none => rfl
    | some new => simp only [Option.elim_some, State.applySubnets_eq]
  obtain ⟨p₂, hrates, hr⟩ : ∃ p₂, p₁.syncRatesIf env fuel f.rateLimits.isSome d.head = some p₂ ∧
      Represents p₂ (f.newRateLimits.elim (subnets.elim s (fun new => (s.applySubnets env new).2))
        (fun new => (subnets.elim s (fun new => (s.applySubnets env new).2)).applyRates env new)) := by
    cases hlist : f.rateLimits with
    | none =>
      have hnone : f.newRateLimits = none := by simp [Fields.newRateLimits, hlist]
      rw [hnone] at hp₁ ⊢
      exact ⟨p₁, rfl, hp₁.represents⟩
    | some list =>
      have hsome : f.newRateLimits = some (parseRateLimits (entriesOf list)) := by
        simp [Fields.newRateLimits, hlist]
      rw [hsome] at hp₁ h4 ⊢
      exact hp₁.syncRates (by rwa [hlimits]) h4
  refine ⟨p₂.signal call, ?_, hr.signal call⟩
  simp only [Process.sync, hblacklist, hrates, Option.bind_eq_bind, Option.bind_some, Option.pure_def]

lemma Represents.setInterface (hr : Represents p s) (name : Text) :
    (p.setInterface env name).1 = (s.setInterface env name).1 ∧
      Represents (p.setInterface env name).2 (s.setInterface env name).2 := by
  unfold Process.setInterface State.setInterface
  rw [hr.agrees.filterInterfaceName]
  split_ifs
  · exact ⟨rfl, ⟨hr.agrees.host, hr.agrees.updateSignal, rfl, rfl⟩, hr.subnets, hr.limits⟩
  · exact ⟨rfl, hr⟩

variable (alloc : Allocators) (env)

lemma Represents.parseSubnetList (hr : Represents p s) (f : Fields) :
    match f.newSubnets with
    | none => ∃ p', p.parseSubnetList alloc f.subnetList = some (none, p') ∧ Agrees p' s
    | some subnets => ∃ c p', p.parseSubnetList alloc f.subnetList = some (some c, p') ∧
        Pending p' s c .empty (subnets.getD []) [] := by
  obtain ⟨cells, hsub, hv⟩ := hr.subnets
  obtain ⟨old, hlim, hw⟩ := hr.limits
  rw [Fields.newSubnets]
  cases f.subnetList with
  | none => exact ⟨.empty, p, rfl, hr.pending⟩
  | some list =>
    have hread := readSubnets_building alloc.subnets (entriesOf list) hsub.building
    simp only [Process.parseSubnetList]
    cases hp : parseSubnets (entriesOf list) with
    | none =>
      rw [hp] at hread
      obtain ⟨h, hread⟩ := hread
      rw [hread]
      exact ⟨_, rfl, hr.agrees.host, hr.agrees.updateSignal, hr.agrees.filterInterfaceName,
        hr.agrees.currentIfindex⟩
    | some new =>
      rw [hp] at hread
      obtain ⟨c, h, fresh, hread, hb, hf⟩ := hread
      rw [hread]
      refine ⟨c, _, rfl, ?_, ⟨cells, fresh, hb, hv, by simpa [values] using hf⟩, ⟨old, [], hlim.building, hw, rfl⟩⟩
      exact ⟨hr.agrees.host, hr.agrees.updateSignal, hr.agrees.filterInterfaceName, hr.agrees.currentIfindex⟩

lemma Pending.parseRateLimitList (hp : Pending p s c .empty nodes []) (f : Fields) :
    ∃ d p', p.parseRateLimitList alloc f.rateLimits = some (d, p') ∧
      Pending p' s c d nodes (f.newRateLimits.getD []) := by
  obtain ⟨old, fresh, hb, hold, hf⟩ := hp.limits
  obtain rfl : fresh = [] := List.map_eq_nil_iff.mp hf
  rw [Fields.newRateLimits]
  cases f.rateLimits with
  | none => exact ⟨.empty, p, rfl, hp⟩
  | some list =>
    obtain ⟨d, h, fresh, hread, hb', hf'⟩ := readRateLimits_building alloc.limits (entriesOf list) hb
    simp only [Process.parseRateLimitList, hread]
    refine ⟨d, _, rfl, ?_, hp.subnets, ⟨old, fresh, hb', hold, by simpa [values] using hf'⟩⟩
    exact ⟨hp.agrees.host, hp.agrees.updateSignal, hp.agrees.filterInterfaceName, hp.agrees.currentIfindex⟩

lemma replaceLists_simulates (hr : Represents p s) (f : Fields) {call : Call}
    (h1 : s.currentBlacklistSubnets.length ≤ fuel) (h2 : ∀ new ∈ f.newSubnets.join, new.length ≤ fuel)
    (h3 : s.currentRateLimits.length ≤ fuel) (h4 : ∀ new ∈ f.newRateLimits, new.length ≤ fuel) :
    Simulates (p.replaceLists alloc env fuel f call)
      (match f.newSubnets with
        | none => (.threw, s)
        | some subnets => s.sync env subnets f.newRateLimits call) := by
  have hparse := hr.parseSubnetList alloc f
  cases hsub : f.newSubnets with
  | none =>
    rw [hsub] at hparse
    obtain ⟨p', hread, ha⟩ := hparse
    refine ⟨p', ?_, ha, fun h => absurd rfl h⟩
    simp only [Process.replaceLists, hread, Option.bind_eq_bind, Option.bind_some, Option.pure_def]
  | some subnets =>
    rw [hsub] at hparse h2
    obtain ⟨c, p₁, hread, hp₁⟩ := hparse
    obtain ⟨d, p₂, hrates, hp₂⟩ := hp₁.parseRateLimitList alloc f
    have h2' : (subnets.getD []).length ≤ fuel := by
      cases subnets with
      | none => exact Nat.zero_le _
      | some new => exact h2 new rfl
    have h4' : (f.newRateLimits.getD []).length ≤ fuel := by
      cases hl : f.newRateLimits with
      | none => exact Nat.zero_le _
      | some new => exact h4 new hl
    obtain ⟨p₃, hsync, hr₃⟩ := hp₂.sync call hsub h1 h2' h3 h4'
    refine ⟨p₃, ?_, hr₃.agrees, fun _ => hr₃⟩
    simp only [Process.replaceLists, hread, hrates, hsync, Option.bind_eq_bind, Option.bind_some]

lemma updateFromConfig_simulates (hr : Represents p s) {call : Call} (hfuel : s.demand call ≤ fuel) :
    Simulates (p.updateFromConfig alloc env fuel call) (s.updateFromConfig env call) := by
  have hfailed {q : Process N} {t : State N} (hq : Represents q t) :
      Simulates (some (.returned (-1), q)) (.returned (-1), t) := ⟨q, rfl, hq.agrees, fun _ => hq⟩
  cases hfile : call.file with
  | none =>
    simp only [Process.updateFromConfig, State.updateFromConfig, hfile]
    exact hfailed hr
  | some text =>
    have hfields : call.fields = some (fieldsOf text) := by simp [Call.fields, hfile]
    cases hname : (fieldsOf text).ifaceName with
    | none =>
      simp only [Process.updateFromConfig, State.updateFromConfig, hfile, hname]
      exact hfailed hr
    | some name =>
      obtain ⟨hsame, hr'⟩ : (p.setInterface env name).1 = (s.setInterface env name).1 ∧
          Represents (p.setInterface env name).2 (s.setInterface env name).2 := hr.setInterface name
      have hu := State.untouched_setInterface env name s
      rcases hset : s.setInterface env name with ⟨taken, t⟩
      rcases hset' : p.setInterface env name with ⟨taken', q⟩
      rw [hset, hset'] at hsame hr'
      rw [hset] at hu
      simp only at hsame hr' hu
      subst hsame
      simp only [Process.updateFromConfig, State.updateFromConfig, hfile, hname, hset, hset']
      cases taken' with
      | false => exact hfailed hr'
      | true =>
        have hnew : call.subnets? = (fieldsOf text).newSubnets.join := by simp [Call.subnets?, hfields]
        have hlim : call.limits? = (fieldsOf text).newRateLimits := by simp [Call.limits?, hfields]
        rw [State.demand, hnew, hlim, ← hu.subnets, ← hu.limits] at hfuel
        refine replaceLists_simulates env alloc hr' (fieldsOf text) (by omega) ?_ (by omega) ?_
        · intro new hn
          rw [Option.mem_def.mp hn, Option.getD_some] at hfuel
          omega
        · intro new hn
          rw [Option.mem_def.mp hn, Option.getD_some] at hfuel
          omega

lemma reloads_simulates (calls : List Call) (s : State N) :
    ∃ enough, ∀ fuel, enough ≤ fuel → ∀ p : Process N, Represents p s →
      Simulates (p.reloads alloc env fuel calls) (s.reloads env calls) := by
  induction calls generalizing s with
  | nil => exact ⟨0, fun fuel _ p hr => ⟨p, rfl, hr.agrees, fun _ => hr⟩⟩
  | cons c calls ih =>
    obtain ⟨enough, hrest⟩ := ih (s.updateFromConfig env c).2
    refine ⟨max (s.demand c) enough, ?_⟩
    intro fuel hfuel p hr
    obtain ⟨q, hq, ha, hrep⟩ := updateFromConfig_simulates env alloc hr ((le_max_left _ _).trans hfuel)
    have hrest := hrest fuel ((le_max_right _ _).trans hfuel) q
    rcases hstep : s.updateFromConfig env c with ⟨o, t⟩
    rw [hstep] at hq ha hrep hrest
    simp only [Process.reloads, State.reloads, hq, hstep, Option.bind_eq_bind, Option.bind_some]
    cases o with
    | threw => exact ⟨q, rfl, ha, fun h => absurd rfl h⟩
    | returned code => exact hrest (hrep (by simp))

lemma Represents.cleanup (hr : Represents p s) (h1 : s.currentBlacklistSubnets.length ≤ fuel)
    (h2 : s.currentRateLimits.length ≤ fuel) :
    ∃ q, p.cleanup fuel = some q ∧ (∀ a, a ∉ q.subnetNodes) ∧ ∀ a, a ∉ q.rateLimitNodes := by
  obtain ⟨subnets, hsub, hv⟩ := hr.subnets
  obtain ⟨limits, hlim, hw⟩ := hr.limits
  rw [← List.length_map SubnetNode.key, ← hv, length_values] at h1
  rw [← hw, length_values] at h2
  obtain ⟨h, hfree, hnone⟩ := hsub.free h1
  obtain ⟨h', hfree', hnone'⟩ := hlim.free h2
  refine ⟨{ p with subnetNodes := h, rateLimitNodes := h' }, ?_, hnone, hnone'⟩
  simp only [Process.cleanup, freeSubnetList, freeRateLimitList, hfree, hfree', Option.bind_eq_bind,
    Option.bind_some,
    Option.pure_def]

end Stages

def State.start (host : Host N) (updateSignal : BitVec 64) : State N := ⟨host, updateSignal, [], 0, [], []⟩

lemma represents_start (host : Host N) (updateSignal : BitVec 64) :
    Represents (State.start host updateSignal).process (State.start host updateSignal) :=
  ⟨⟨rfl, rfl, rfl, rfl⟩, ⟨[], exactly_empty, rfl⟩, ⟨[], exactly_empty, rfl⟩⟩

theorem nodes_follow_lists (alloc : Allocators) (env : Env N) (host : Host N) (updateSignal : BitVec 64)
    (calls : List Call) :
    ∃ enough, ∀ fuel, enough ≤ fuel → ∃ p,
      let r := (State.start host updateSignal).reloads env calls
      (State.start host updateSignal).process.reloads alloc env fuel calls = some (r.1, p) ∧ Agrees p r.2 ∧
        (r.1 ≠ .threw → Represents p r.2 ∧
          ∃ q, p.cleanup fuel = some q ∧ (∀ a, a ∉ q.subnetNodes) ∧ ∀ a, a ∉ q.rateLimitNodes) := by
  obtain ⟨enough, hsim⟩ := reloads_simulates env alloc calls (State.start host updateSignal)
  set r := (State.start host updateSignal).reloads env calls
  refine ⟨max enough (r.2.currentBlacklistSubnets.length + r.2.currentRateLimits.length), ?_⟩
  intro fuel hfuel
  obtain ⟨p, hp, ha, hrep⟩ := hsim fuel ((le_max_left _ _).trans hfuel) _ (represents_start host updateSignal)
  have hlengths := (le_max_right _ _).trans hfuel
  refine ⟨p, hp, ha, fun hr => ⟨hrep hr, (hrep hr).cleanup ?_ ?_⟩⟩
  · omega
  · omega

def behind (α : Type) : Allocator α where
  place h := h.keys.sum + 1
  unused h hmem := by
    have hle : h.keys.sum + 1 ≤ h.keys.sum := List.le_sum_of_mem (AList.mem_keys.mp hmem)
    omega

example : ((State.start ⟨.zeroed, 0, []⟩ 0).process.reloads ⟨behind _, behind _⟩ quiet 4
    [reload "interface=eth0\nip_blacklist=10.0.0.1,10.0.0.2", reload "interface=eth0\nip_blacklist=10.0.0.3"]).map
      (fun r => (r.1, r.2.subnetNodes.keys, r.2.currentBlacklistSubnets)) = some (.returned 0, [4], some 4) := by
  decide +kernel

end PacketFilter.Engine
