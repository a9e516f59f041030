import PacketFilter.Engine.Printing
import PacketFilter.Config.Commands
import PacketFilter.Library.Syncing

/-! What one reload does to the blacklist and to the rate limits when its map operations succeed. -/

namespace PacketFilter.Engine

open Library Library.Programs Library.Scanning Library.Syncing Kernel Prog
open Config (Sys SysProg Faults Host Errno Command View sys updated deleted view)

variable {N : ℕ}

/-- Every call is answered with success, or that there was nothing to delete. -/
def Smooth {α : Type} (faults : Faults N) (p : SysProg α) (h : Host N) : Prop :=
  ∀ x ∈ answers (Sys.exec faults) p h, x.2 = .ok () ∨ x.2 = .error .ENOENT

instance {α : Type} (faults : Faults N) (p : SysProg α) (h : Host N) : Decidable (Smooth faults p h) :=
  inferInstanceAs (Decidable (∀ x ∈ answers (Sys.exec faults) p h, x.2 = .ok () ∨ x.2 = .error .ENOENT))

lemma smooth_bind {α β : Type} {faults : Faults N} {p : SysProg α} {f : α → SysProg β} {h : Host N}
    (hs : Smooth faults (p >>= f) h) :
    Smooth faults p h ∧ Smooth faults (f (run (Sys.exec faults) p h).1) (run (Sys.exec faults) p h).2 := by
  simp only [Smooth, answers_bind] at hs
  exact ⟨fun x hx => hs x (List.mem_append_left _ hx), fun x hx => hs x (List.mem_append_right _ hx)⟩

section Performing

variable (faults : Faults N) {α β : Type}

def Performs (p : SysProg α) (cs : List Command) : Prop :=
  ∀ h : Host N, Smooth faults p h →
    view (run (Sys.exec faults) p h).2.settings = cs.foldl Command.apply (view h.settings)

variable {faults}

lemma performs_ret (a : α) : Performs faults (return a) [] := fun _ _ => rfl

lemma Performs.bind {p : SysProg α} {f : α → SysProg β} {cs ds : List Command} (hp : Performs faults p cs)
    (hf : ∀ h, Performs faults (f (run (Sys.exec faults) p h).1) ds) : Performs faults (p >>= f) (cs ++ ds) := by
  intro h hs
  obtain ⟨h1, h2⟩ := smooth_bind hs
  rw [run_bind, hf h _ h2, hp h h1, List.foldl_append]

lemma performs_sys {op : Sys} (hop : ∀ note, op ≠ .report note) {f : Except Errno Unit → SysProg β} {c : Command}
    (hf : ∀ r, ∃ b, f r = return b)
    (ha : ∀ s s' : Settings N, op.apply s = .ok s' → view s' = c.apply (view s))
    (hn : ∀ s : Settings N, op.apply s = .error .ENOENT → view s = c.apply (view s)) :
    Performs faults (sys op >>= f) [c] := by
  intro h hs
  obtain ⟨b, hb⟩ := hf (op.exec faults h).1
  have hr : run (Sys.exec faults) (sys op >>= f) h = (b, (op.exec faults h).2) := by
    simp only [sys, perform_bind, run_call, hb, pure_eq, run_ret]
  have hx : (op.exec faults h).1 = .ok () ∨ (op.exec faults h).1 = .error .ENOENT :=
    hs ⟨op, _⟩ List.mem_cons_self
  rw [hr]
  obtain ⟨_, ⟨_, hok⟩ | ⟨e, he, hsame, hen⟩⟩ := Config.exec_cases faults op hop h
  · exact ha _ _ hok
  · have he' : e = .ENOENT := by
      rw [he] at hx
      rcases hx with hx | hx
      · cases hx
      · exact Except.error.inj hx
    rw [hsame]
    exact hn _ (hen he')

lemma exists_return {p : Prop} [Decidable p] (a b : β) :
    ∃ c, (if p then return a else return b : SysProg β) = return c := by
  split_ifs
  · exact ⟨a, rfl⟩
  · exact ⟨b, rfl⟩

end Performing

section Blacklist

variable {faults : Faults N} (mapFd : ℤ)

lemma network?_key (node : SubnetNode) : Config.network? node.key = some node.network := dif_pos node.le

lemma performs_removeFromBlacklist (node : SubnetNode) :
    Performs faults (removeFromBlacklist mapFd node.key) [.removeNet .blacklist node.network] := by
  exact performs_sys (by simp) (fun _ => exists_return _ _) (Config.view_removeNet (network?_key node))
    (Config.view_removeNet_absent (network?_key node))

lemma apply_updateSubnets_ne {l : Config.SubnetList} {fd : ℤ} {key : BpfTrieKey} {value : BitVec 8}
    {s : Settings N} :
    Sys.apply s (.updateSubnets l fd key value) ≠ .error .ENOENT := by
  simp only [Sys.apply]
  split
  · exact fun h => by cases h
  · split <;> exact fun h => by cases h

lemma performs_addToBlacklist (node : SubnetNode) :
    Performs faults (addToBlacklist mapFd (subnetStrBuf node.key)) [.addNet .blacklist node.network] := by
  rw [addToBlacklist_subnetStrBuf]
  exact performs_sys (by simp) (fun _ => exists_return _ _) (Config.view_addNet (network?_key node))
    (fun s h => absurd h apply_updateSubnets_ne)

lemma performs_removeSubnets (new current : List SubnetNode) :
    Performs faults (removeSubnets mapFd new current)
      ((without current new).map (fun node => .removeNet .blacklist node.network)) := by
  induction current with
  | nil => exact performs_ret ()
  | cons node rest ih =>
    rw [removeSubnets]
    split_ifs with hm
    · rw [without_cons_of_mem hm]
      exact ih
    · rw [without_cons_of_not_mem hm]
      exact (performs_removeFromBlacklist mapFd node).bind (fun _ => ih)

variable (faults) in
lemma returned_addToBlacklist (node : SubnetNode) (h : Host N) :
    ∃ code, (run (Sys.exec faults) (addToBlacklist mapFd (subnetStrBuf node.key)) h).1 = .returned code := by
  rw [addToBlacklist_subnetStrBuf]
  simp only [sys, perform_bind, run_call]
  split_ifs
  · exact ⟨0, rfl⟩
  · exact ⟨-1, rfl⟩

lemma performs_addSubnets (current new : List SubnetNode) :
    Performs faults (addSubnets mapFd current new)
      ((without new current).map (fun node => .addNet .blacklist node.network)) := by
  induction new with
  | nil => exact performs_ret _
  | cons node rest ih =>
    rw [addSubnets]
    split_ifs with hm
    · rw [without_cons_of_mem hm]
      exact ih
    · rw [without_cons_of_not_mem hm]
      refine (performs_addToBlacklist mapFd node).bind ?_
      intro h
      obtain ⟨code, hc⟩ := returned_addToBlacklist faults mapFd node h
      rw [hc]
      exact ih

lemma returned_addSubnets (current new : List SubnetNode) (h : Host N) :
    (run (Sys.exec faults) (addSubnets mapFd current new) h).1 = .returned 0 := by
  induction new generalizing h with
  | nil => rfl
  | cons node rest ih =>
    rw [addSubnets]
    split_ifs
    · exact ih h
    · obtain ⟨code, hc⟩ := returned_addToBlacklist faults mapFd node h
      rw [run_bind, hc]
      exact ih _

lemma performs_syncBlacklist (current new : List SubnetNode) :
    Performs faults (syncBlacklist mapFd current new)
      ((without current new).map (fun node => .removeNet .blacklist node.network) ++
        (without new current).map (fun node => .addNet .blacklist node.network)) :=
  (performs_removeSubnets mapFd new current).bind (fun _ => performs_addSubnets mapFd current new)

lemma returned_syncBlacklist (current new : List SubnetNode) (h : Host N) :
    (run (Sys.exec faults) (syncBlacklist mapFd current new) h).1 = .returned 0 := by
  rw [syncBlacklist, run_bind]
  exact returned_addSubnets mapFd current new _

def blacklisted (v : View) : Set (Network 32) := {net | (v.nets .blacklist net).isSome}

lemma blacklisted_foldl_remove (nodes : List SubnetNode) (v : View) :
    blacklisted ((nodes.map (fun node => Command.removeNet .blacklist node.network)).foldl Command.apply v) =
      blacklisted v \ named SubnetNode.network nodes := by
  induction nodes generalizing v with
  | nil => simp [named]
  | cons node rest ih =>
    rw [List.map_cons, List.foldl_cons, ih]
    ext net
    by_cases hn : net = node.network
    · simp [blacklisted, named, Command.apply, hn]
    · simp [blacklisted, named, Command.apply, hn, Ne.symm hn]

lemma blacklisted_foldl_add (nodes : List SubnetNode) (v : View) :
    blacklisted ((nodes.map (fun node => Command.addNet .blacklist node.network)).foldl Command.apply v) =
      blacklisted v ∪ named SubnetNode.network nodes := by
  induction nodes generalizing v with
  | nil => simp [named]
  | cons node rest ih =>
    rw [List.map_cons, List.foldl_cons, ih]
    ext net
    by_cases hn : net = node.network
    · simp [blacklisted, named, Command.apply, hn]
    · simp [blacklisted, named, Command.apply, hn, Ne.symm hn]

lemma limits_foldl_nets (cs : List Command) (v : View)
    (hc : ∀ c ∈ cs, ∃ net, c = .removeNet .blacklist net ∨ c = .addNet .blacklist net) :
    (cs.foldl Command.apply v).limits = v.limits := by
  induction cs generalizing v with
  | nil => rfl
  | cons c cs ih =>
    rw [List.foldl_cons, ih _ (fun d hd => hc d (List.mem_cons_of_mem _ hd))]
    obtain ⟨net, rfl | rfl⟩ := hc c List.mem_cons_self <;> rfl

lemma limits_syncBlacklist {current new : List SubnetNode} {h : Host N}
    (hs : Smooth faults (syncBlacklist mapFd current new) h) :
    (view (run (Sys.exec faults) (syncBlacklist mapFd current new) h).2.settings).limits =
      (view h.settings).limits := by
  rw [performs_syncBlacklist mapFd current new h hs]
  apply limits_foldl_nets
  intro c hc
  rcases List.mem_append.mp hc with hc | hc
  · obtain ⟨node, _, rfl⟩ := List.mem_map.mp hc
    exact ⟨_, Or.inl rfl⟩
  · obtain ⟨node, _, rfl⟩ := List.mem_map.mp hc
    exact ⟨_, Or.inr rfl⟩

lemma blacklisted_sync {current new : List SubnetNode} {h : Host N}
    (hs : Smooth faults (syncBlacklist mapFd current new) h) :
    blacklisted (view (run (Sys.exec faults) (syncBlacklist mapFd current new) h).2.settings) =
      synced SubnetNode.network current new (blacklisted (view h.settings)) := by
  rw [performs_syncBlacklist mapFd current new h hs, List.foldl_append, blacklisted_foldl_add,
    blacklisted_foldl_remove]
  rfl

end Blacklist

section Rates

variable {faults : Faults N} (mapFd : ℤ)

def RateLimit.config (limit : RateLimit) : IpRateLimit := ⟨limit.pps, limit.intervalNs⟩

def RateLimit.entry (limit : RateLimit) : Addr × IpRateLimit := (limit.ip, limit.config)

lemma RateLimit.config_eq_iff (limit other : RateLimit) : limit.config = other.config ↔ limit.pps = other.pps := by
  constructor
  · exact fun h => congrArg IpRateLimit.packetsPerSecond h
  · intro h
    rw [config, config, limit.interval_eq, other.interval_eq, h]

lemma performs_removeFromRateLimits (ip : Addr) :
    Performs faults (removeFromRateLimits mapFd ip) [.removeLimit ip] := by
  exact performs_sys (by simp) (fun _ => exists_return _ _) Config.view_removeLimit Config.view_removeLimit_absent

lemma apply_updateRateLimits_ne {fd : ℤ} {ip : Addr} {config : IpRateLimit} {s : Settings N} :
    Sys.apply s (.updateRateLimits fd ip config) ≠ .error .ENOENT := by
  simp only [Sys.apply]
  split <;> exact fun h => by cases h

lemma performs_addToRateLimits (limit : RateLimit) :
    Performs faults (addToRateLimits mapFd limit) [.addLimit limit.ip limit.config] := by
  exact performs_sys (by simp) (fun _ => exists_return _ _) Config.view_addLimit
    (fun s h => absurd h apply_updateRateLimits_ne)

def outdated (current new : List RateLimit) : List RateLimit :=
  current.filter (fun limit => !new.any (·.ip = limit.ip))

lemma performs_removeRates (new current : List RateLimit) :
    Performs faults (removeRates mapFd new current)
      ((outdated current new).map (fun limit => .removeLimit limit.ip)) := by
  induction current with
  | nil => exact performs_ret ()
  | cons limit rest ih =>
    rw [removeRates]
    split_ifs with hm
    · have ho : outdated (limit :: rest) new = outdated rest new := List.filter_cons_of_neg (by simp [hm])
      rw [ho]
      exact ih
    · have ho : outdated (limit :: rest) new = limit :: outdated rest new := List.filter_cons_of_pos (by simp [hm])
      rw [ho]
      exact (performs_removeFromRateLimits mapFd limit.ip).bind (fun _ => ih)

lemma performs_addRates (current new : List RateLimit) :
    Performs faults (addRates mapFd current new)
      ((new.filter (needsUpdate current)).map (fun limit => .addLimit limit.ip limit.config)) := by
  induction new with
  | nil => exact performs_ret ()
  | cons limit rest ih =>
    rw [addRates]
    split_ifs with hu
    · rw [List.filter_cons_of_pos hu]
      exact (performs_addToRateLimits mapFd limit).bind (fun _ => ih)
    · rw [List.filter_cons_of_neg hu]
      exact ih

lemma performs_syncRates (current new : List RateLimit) :
    Performs faults (syncRates mapFd current new)
      ((outdated current new).map (fun limit => .removeLimit limit.ip) ++
        (new.filter (needsUpdate current)).map (fun limit => .addLimit limit.ip limit.config)) :=
  (performs_removeRates mapFd new current).bind (fun _ => performs_addRates mapFd current new)

lemma limits_foldl_remove (limits : List RateLimit) (v : View) (a : Addr) :
    ((limits.map (fun limit => Command.removeLimit limit.ip)).foldl Command.apply v).limits a =
      if ∃ limit ∈ limits, limit.ip = a then none else v.limits a := by
  induction limits generalizing v with
  | nil => simp
  | cons limit rest ih =>
    rw [List.map_cons, List.foldl_cons, ih]
    by_cases ha : a = limit.ip
    · simp [Command.apply, ha]
    · simp [Command.apply, ha, Ne.symm ha]

lemma limits_foldl_add (limits : List RateLimit) (v : View) (a : Addr) :
    ((limits.map (fun limit => Command.addLimit limit.ip limit.config)).foldl Command.apply v).limits a =
      (rebuilt (limits.map RateLimit.entry) a).or (v.limits a) := by
  induction limits generalizing v with
  | nil => rfl
  | cons limit rest ih =>
    rw [List.map_cons, List.foldl_cons, ih, List.map_cons, rebuilt_cons, Option.or_assoc]
    by_cases ha : limit.ip = a
    · simp [Command.apply, RateLimit.entry, ha]
    · simp [Command.apply, RateLimit.entry, ha, Ne.symm ha]

lemma valuesOf_entries (limits : List RateLimit) (a : Addr) :
    valuesOf (limits.map RateLimit.entry) a = (limits.filter (·.ip = a)).map RateLimit.config := by
  rw [valuesOf, List.filter_map, List.map_map]
  rfl

lemma needsUpdate_eq (current : List RateLimit) (limit : RateLimit) :
    needsUpdate current limit =
      decide ((valuesOf (current.map RateLimit.entry) limit.ip).head? ≠ some limit.config) := by
  rw [valuesOf_entries, List.head?_map, List.head?_filter, needsUpdate]
  cases current.find? (·.ip = limit.ip) with
  | none => simp
  | some tracked => simp [RateLimit.config_eq_iff, eq_comm]

lemma rewritten_entries (current new : List RateLimit) :
    rewritten (current.map RateLimit.entry) (new.map RateLimit.entry) =
      (new.filter (needsUpdate current)).map RateLimit.entry := by
  rw [rewritten, List.filter_map]
  congr 1
  apply List.filter_congr
  intro limit _
  exact (needsUpdate_eq current limit).symm

lemma exists_outdated (current new : List RateLimit) (a : Addr) :
    (∃ limit ∈ outdated current new, limit.ip = a) ↔
      valuesOf (current.map RateLimit.entry) a ≠ [] ∧ valuesOf (new.map RateLimit.entry) a = [] := by
  simp only [valuesOf_entries, ne_eq, List.map_eq_nil_iff, List.filter_eq_nil_iff, outdated, List.mem_filter,
    Bool.not_eq_true', List.any_eq_false, decide_eq_true_eq, not_forall, not_not]
  constructor
  · rintro ⟨limit, ⟨hm, hn⟩, rfl⟩
    exact ⟨⟨limit, hm, rfl⟩, hn⟩
  · rintro ⟨⟨limit, hm, rfl⟩, hn⟩
    exact ⟨limit, ⟨hm, hn⟩, rfl⟩

lemma nets_foldl_limits (cs : List Command) (v : View)
    (hc : ∀ c ∈ cs, (∃ ip, c = .removeLimit ip) ∨ ∃ ip config, c = .addLimit ip config) :
    (cs.foldl Command.apply v).nets = v.nets := by
  induction cs generalizing v with
  | nil => rfl
  | cons c cs ih =>
    rw [List.foldl_cons, ih _ (fun d hd => hc d (List.mem_cons_of_mem _ hd))]
    obtain ⟨ip, rfl⟩ | ⟨ip, config, rfl⟩ := hc c List.mem_cons_self <;> rfl

lemma blacklisted_syncRates {current new : List RateLimit} {h : Host N}
    (hs : Smooth faults (syncRates mapFd current new) h) :
    blacklisted (view (run (Sys.exec faults) (syncRates mapFd current new) h).2.settings) =
      blacklisted (view h.settings) := by
  rw [performs_syncRates mapFd current new h hs, blacklisted, nets_foldl_limits]
  · rfl
  · intro c hc
    rcases List.mem_append.mp hc with hc | hc
    · obtain ⟨limit, _, rfl⟩ := List.mem_map.mp hc
      exact Or.inl ⟨_, rfl⟩
    · obtain ⟨limit, _, rfl⟩ := List.mem_map.mp hc
      exact Or.inr ⟨_, _, rfl⟩

lemma limits_sync {current new : List RateLimit} {h : Host N}
    (hs : Smooth faults (syncRates mapFd current new) h) :
    (view (run (Sys.exec faults) (syncRates mapFd current new) h).2.settings).limits =
      resynced (current.map RateLimit.entry) (new.map RateLimit.entry) (view h.settings).limits := by
  funext a
  rw [performs_syncRates mapFd current new h hs, List.foldl_append, limits_foldl_add,
    limits_foldl_remove, resynced,
    rewritten_entries]
  simp only [exists_outdated]

end Rates

end PacketFilter.Engine
