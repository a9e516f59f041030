import PacketFilter.Config.Journal
import PacketFilter.Library.Streams

/-! Event lines for the three configuration types, merged in any order. -/

namespace PacketFilter.Config

open Library Library.Programs Library.Scanning Library.Streams Kernel Prog

variable {N : ℕ}

namespace Kind

def typeName : Kind → Text
  | .subnets .blacklist => ['b', 'l', 'a', 'c', 'k', 'l', 'i', 's', 't']
  | .subnets .whitelist => ['w', 'h', 'i', 't', 'e', 'l', 'i', 's', 't']
  | .ratelimit => ['r', 'a', 't', 'e', 'l', 'i', 'm', 'i', 't']

lemma typeName_injective : Function.Injective typeName := by
  intro j k h
  cases j with
  | ratelimit =>
    cases k with
    | ratelimit => rfl
    | subnets l => cases l <;> exact absurd h (by decide)
  | subnets l =>
    cases k with
    | ratelimit => cases l <;> exact absurd h (by decide)
    | subnets l' => cases l <;> cases l' <;> first | rfl | exact absurd h (by decide)

def SameMap (s s' : Settings N) : Kind → Prop
  | .subnets l => Config.subnets s l = Config.subnets s' l
  | .ratelimit => s.ipRateLimits = s'.ipRateLimits

end Kind

lemma ConfigType.getTypeName_eq (c : ConfigType) : c.getTypeName = c.kind.typeName := by
  cases c with
  | subnets l fds => cases l <;> rfl
  | ratelimit fds => rfl

def AddressedTo (k : Kind) (line : Text) : Prop := ∃ x ∈ splitFirst ':' line, trim x.1 = k.typeName

instance (k : Kind) (line : Text) : Decidable (AddressedTo k line) :=
  inferInstanceAs (Decidable (∃ x ∈ splitFirst ':' line, _))

lemma AddressedTo.unique {j k : Kind} {line : Text} (hj : AddressedTo j line) (hk : AddressedTo k line) :
    j = k := by
  obtain ⟨x, hx, hxj⟩ := hj
  obtain ⟨y, hy, hyk⟩ := hk
  cases Option.mem_unique hx hy
  exact Kind.typeName_injective (hxj.symm.trans hyk)

def Sys.mapKind : Sys → Option Kind
  | .updateSubnets l _ _ _ | .deleteSubnets l _ _ => some (.subnets l)
  | .updateRateLimits _ _ _ | .deleteRateLimits _ _ => some .ratelimit
  | .updateConfigState _ _ _ | .report _ => none

/-- Calls on a map fail by what is in that map, and writes of the array whatever is in it. -/
structure Local (faults : Faults N) : Prop where
  configState : ∀ c c' s s' fd key value,
    faults c s (.updateConfigState fd key value) = faults c' s' (.updateConfigState fd key value)
  own : ∀ c c' s s' op k, op.mapKind = some k → k.SameMap s s' → faults c s op = faults c' s' op

def SameFor (k : Kind) (s s' : Settings N) : Prop :=
  k.SameMap s s' ∧ s.configState k.slot = s'.configState k.slot

def Concerns (k : Kind) (op : Sys) : Prop :=
  op.mapKind = some k ∨ ∃ fd key value, op = .updateConfigState fd key value ∧ key.toNat = k.slot

section Calls

variable {k : Kind} {op : Sys} {s s' t : Settings N}

lemma SameFor.refl (k : Kind) (s : Settings N) : SameFor k s s := by
  refine ⟨?_, rfl⟩
  cases k <;> rfl

lemma SameFor.symm (h : SameFor k s s') : SameFor k s' s := by
  refine ⟨?_, h.2.symm⟩
  have h1 := h.1
  cases k <;> exact Eq.symm h1

lemma SameFor.trans (h : SameFor k s s') (h' : SameFor k s' t) : SameFor k s t := by
  refine ⟨?_, h.2.trans h'.2⟩
  have h1 := h.1
  have h2 := h'.1
  cases k <;> exact Eq.trans h1 h2

lemma subnets_setSubnets_self (s : Settings N) (l : SubnetList) (m : SubnetsMap N) :
    subnets (setSubnets s l m) l = m := by
  cases l <;> rfl

lemma subnets_setSubnets_of_ne (s : Settings N) {l l' : SubnetList} (hl : l' ≠ l) (m : SubnetsMap N) :
    subnets (setSubnets s l m) l' = subnets s l' := by
  cases l <;> cases l' <;> first | rfl | exact absurd rfl hl

lemma configState_setSubnets (s : Settings N) (l : SubnetList) (m : SubnetsMap N) :
    (setSubnets s l m).configState = s.configState := by
  cases l <;> rfl

lemma ipRateLimits_setSubnets (s : Settings N) (l : SubnetList) (m : SubnetsMap N) :
    (setSubnets s l m).ipRateLimits = s.ipRateLimits := by
  cases l <;> rfl

lemma sameFor_setSubnets {l : SubnetList} (h : SameFor (.subnets l) s s') (m : SubnetsMap N) :
    SameFor (.subnets l) (setSubnets s l m) (setSubnets s' l m) := by
  constructor
  · rw [Kind.SameMap, subnets_setSubnets_self, subnets_setSubnets_self]
  · rw [configState_setSubnets, configState_setSubnets]
    exact h.2

lemma apply_subnets {l : SubnetList} (hop : op.mapKind = some (.subnets l)) :
    ∃ F : SubnetsMap N → Except Errno (SubnetsMap N), ∀ s,
      op.apply s = (F (subnets s l)).map (setSubnets s l) := by
  cases op with
  | updateSubnets l' fd key value =>
    cases hop
    refine ⟨fun m => (network? key).elim (.error .EINVAL) (fun net =>
      (m.update net value).elim (.error .ENOSPC) .ok), ?_⟩
    intro s
    simp only [Sys.apply]
    cases network? key with
    | none => rfl
    | some net =>
      simp only [Option.elim_some]
      cases (subnets s l).update net value <;> rfl
  | deleteSubnets l' fd key =>
    cases hop
    refine ⟨fun m => (network? key).elim (.error .EINVAL) (fun net =>
      if (m.get? net).isSome then .ok (m.erase net) else .error .ENOENT), ?_⟩
    intro s
    simp only [Sys.apply]
    cases network? key with
    | none => rfl
    | some net =>
      simp only [Option.elim_some]
      split_ifs <;> rfl
  | _ => cases hop

lemma apply_ratelimit (hop : op.mapKind = some .ratelimit) :
    ∃ F : BoundedMap Addr IpRateLimit N → Except Errno (BoundedMap Addr IpRateLimit N),
      ∀ s, op.apply s = (F s.ipRateLimits).map (fun m => { s with ipRateLimits := m }) := by
  cases op with
  | updateRateLimits fd ip config =>
    refine ⟨fun m => (m.update ip config).elim (.error .E2BIG) .ok, ?_⟩
    intro s
    simp only [Sys.apply]
    cases s.ipRateLimits.update ip config <;> rfl
  | deleteRateLimits fd ip =>
    refine ⟨fun m => if (m.get? ip).isSome then .ok (m.erase ip) else .error .ENOENT, ?_⟩
    intro s
    simp only [Sys.apply]
    split_ifs <;> rfl
  | _ => cases hop

lemma apply_same (hop : Concerns k op) (h : SameFor k s s') :
    (∃ e, op.apply s = .error e ∧ op.apply s' = .error e) ∨
      ∃ t t', op.apply s = .ok t ∧ op.apply s' = .ok t' ∧ SameFor k t t' := by
  rcases hop with hop | ⟨fd, key, value, rfl, hk⟩
  · cases k with
    | subnets l =>
      obtain ⟨F, hF⟩ := apply_subnets (N := N) hop
      have hm : subnets s l = subnets s' l := h.1
      rw [hF, hF, ← hm]
      cases F (subnets s l) with
      | error e => exact Or.inl ⟨e, rfl, rfl⟩
      | ok m => exact Or.inr ⟨_, _, rfl, rfl, sameFor_setSubnets h m⟩
    | ratelimit =>
      obtain ⟨F, hF⟩ := apply_ratelimit (N := N) hop
      have hm : s.ipRateLimits = s'.ipRateLimits := h.1
      rw [hF, hF, ← hm]
      cases F s.ipRateLimits with
      | error e => exact Or.inl ⟨e, rfl, rfl⟩
      | ok m => exact Or.inr ⟨_, _, rfl, rfl, rfl, h.2⟩
  · have hlt : key.toNat < 20 := hk ▸ k.slot.isLt
    have hs : (⟨key.toNat, hlt⟩ : Fin 20) = k.slot := Fin.ext hk
    simp only [Sys.apply, dif_pos hlt, hs]
    refine Or.inr ⟨_, _, rfl, rfl, ?_, ?_⟩
    · have hm := h.1
      cases k with
      | ratelimit => exact hm
      | subnets l => cases l <;> exact hm
    · simp only [Function.update_self]

def AgreeOn : Option Kind → Settings N → Settings N → Prop
  | some k, s, s' => SameFor k s s'
  | none, s, s' => ∀ i : Fin 20, (∀ k : Kind, i ≠ k.slot) → s.configState i = s'.configState i

lemma AgreeOn.refl (i : Option Kind) (s : Settings N) : AgreeOn i s s := by
  cases i with
  | none => exact fun _ _ => rfl
  | some k => exact SameFor.refl k s

lemma AgreeOn.symm {i : Option Kind} (h : AgreeOn i s s') : AgreeOn i s' s := by
  cases i with
  | none => exact fun j hj => (h j hj).symm
  | some k => exact SameFor.symm h

lemma AgreeOn.trans {i : Option Kind} (h : AgreeOn i s s') (h' : AgreeOn i s' t) : AgreeOn i s t := by
  cases i with
  | none => exact fun j hj => (h j hj).trans (h' j hj)
  | some k => exact SameFor.trans h h'

lemma eq_of_agreeOn (h : ∀ i, AgreeOn i s s') : s = s' := by
  have hb : s.blacklistSubnets = s'.blacklistSubnets := (h (some (.subnets .blacklist))).1
  have hw : s.whitelistSubnets = s'.whitelistSubnets := (h (some (.subnets .whitelist))).1
  have hr : s.ipRateLimits = s'.ipRateLimits := (h (some .ratelimit)).1
  have hf : s.configState = s'.configState := by
    funext i
    by_cases hi : ∃ k : Kind, i = k.slot
    · obtain ⟨k, rfl⟩ := hi
      exact (h (some k)).2
    · exact h none i (fun k hk => hi ⟨k, hk⟩)
  cases s
  cases s'
  simp only [Settings.mk.injEq]
  exact ⟨hf, hw, hb, hr⟩

lemma agreeOn_of_maps {i : Option Kind} (hc : t.configState = s.configState)
    (hm : ∀ j, i = some j → j.SameMap t s) : AgreeOn i t s := by
  cases i with
  | none => exact fun n _ => congrFun hc n
  | some j => exact ⟨hm j rfl, congrFun hc _⟩

lemma agreeOn_setSubnets (s : Settings N) (l : SubnetList) (m : SubnetsMap N) {i : Option Kind}
    (hi : i ≠ some (.subnets l)) : AgreeOn i (setSubnets s l m) s := by
  apply agreeOn_of_maps (configState_setSubnets s l m)
  rintro j rfl
  cases j with
  | ratelimit => exact ipRateLimits_setSubnets s l m
  | subnets l' => exact subnets_setSubnets_of_ne s (fun hl => hi (by rw [hl])) m

lemma agreeOn_setRateLimits (s : Settings N) (m : BoundedMap Addr IpRateLimit N) {i : Option Kind}
    (hi : i ≠ some .ratelimit) : AgreeOn i { s with ipRateLimits := m } s := by
  refine agreeOn_of_maps (by rfl) ?_
  rintro j rfl
  cases j with
  | ratelimit => exact absurd rfl hi
  | subnets l => cases l <;> rfl

lemma apply_other (hop : Concerns k op) (ha : op.apply s = .ok t) {i : Option Kind} (hi : i ≠ some k) :
    AgreeOn i t s := by
  rcases hop with hop | ⟨fd, key, value, rfl, hk⟩
  · cases k with
    | subnets l =>
      obtain ⟨F, hF⟩ := apply_subnets (N := N) hop
      rw [hF] at ha
      cases hm : F (subnets s l) with
      | error e => simp [hm, Except.map] at ha
      | ok m =>
        obtain rfl : setSubnets s l m = t := by simpa [hm, Except.map] using ha
        exact agreeOn_setSubnets s l m hi
    | ratelimit =>
      obtain ⟨F, hF⟩ := apply_ratelimit (N := N) hop
      rw [hF] at ha
      cases hm : F s.ipRateLimits with
      | error e => simp [hm, Except.map] at ha
      | ok m =>
        obtain rfl : { s with ipRateLimits := m } = t := by simpa [hm, Except.map] using ha
        exact agreeOn_setRateLimits s m hi
  · have hlt : key.toNat < 20 := hk ▸ k.slot.isLt
    have hs : (⟨key.toNat, hlt⟩ : Fin 20) = k.slot := Fin.ext hk
    simp only [Sys.apply, dif_pos hlt, hs] at ha
    cases ha
    cases i with
    | none => exact fun n hn => Function.update_of_ne (hn k) _ _
    | some j =>
      refine ⟨?_, Function.update_of_ne (fun h => hi (by rw [slot_injective h])) _ _⟩
      cases j with
      | ratelimit => rfl
      | subnets l => cases l <;> rfl

end Calls

section Lines

variable {faults : Faults N} {k : Kind} {op : Sys} {h h' : Host N}

lemma Concerns.ne_report (hop : Concerns k op) (note : Note) : op ≠ .report note := by
  rintro rfl
  rcases hop with hop | ⟨_, _, _, hop, _⟩ <;> cases hop

lemma exec_of_ne_report (hop : ∀ note, op ≠ .report note) : op.exec faults h =
    if op.fd < 0 then (.error .EBADF, { h with calls := h.calls + 1 })
    else if faults h.calls h.settings op then (.error .ENOMEM, { h with calls := h.calls + 1 })
    else
      match op.apply h.settings with
      | .error e => (.error e, { h with calls := h.calls + 1 })
      | .ok s => (.ok (), { h with settings := s, calls := h.calls + 1 }) := by
  cases op with
  | report note => exact absurd rfl (hop note)
  | _ => rfl

lemma Local.faults_eq (hf : Local faults) (hop : Concerns k op) (hs : SameFor k h.settings h'.settings) :
    faults h.calls h.settings op = faults h'.calls h'.settings op := by
  rcases hop with hop | ⟨fd, key, value, rfl, _⟩
  · exact hf.own _ _ _ _ op k hop hs.1
  · exact hf.configState _ _ _ _ fd key value

lemma exec_same (hf : Local faults) (hop : Concerns k op) (hs : SameFor k h.settings h'.settings) :
    (op.exec faults h).1 = (op.exec faults h').1 ∧
      SameFor k (op.exec faults h).2.settings (op.exec faults h').2.settings := by
  rw [exec_of_ne_report hop.ne_report, exec_of_ne_report hop.ne_report, hf.faults_eq hop hs]
  split_ifs
  · exact ⟨rfl, hs⟩
  · exact ⟨rfl, hs⟩
  · obtain ⟨e, he, he'⟩ | ⟨t, t', ht, ht', hst⟩ := apply_same hop hs
    · rw [he, he']
      exact ⟨rfl, hs⟩
    · rw [ht, ht']
      exact ⟨rfl, hst⟩

lemma exec_other (hop : Concerns k op) {i : Option Kind} (hi : i ≠ some k) :
    AgreeOn i (op.exec faults h).2.settings h.settings := by
  obtain ⟨_, ⟨_, hs⟩ | ⟨e, _, hs, _⟩⟩ := exec_cases faults op hop.ne_report h
  · exact apply_other hop hs hi
  · rw [hs]
    exact AgreeOn.refl i _

def OneCall (k : Kind) (p : SysProg Bool) : Prop :=
  (∃ b, p = return b) ∨ ∃ (op : Sys) (f : Except Errno Unit → Bool), Concerns k op ∧ p = do return f (← sys op)

lemma oneCall_setState (key : BitVec 32) (hk : key.toNat = k.slot) (fd : ℤ) (value : BitVec 8) :
    OneCall k (setState fd key value) :=
  Or.inr ⟨_, updated, Or.inr ⟨fd, key, value, rfl, hk⟩, rfl⟩

lemma oneCall_subnets (l : SubnetList) (fds : ListFds) (message : Text) :
    OneCall (.subnets l) (l.updateConfig fds message) := by
  have hk : l.configKey.toNat = (Kind.subnets l).slot := by cases l <;> rfl
  have hreads := l.reads fds message
  generalize readSubnetCommand l message = c, l.updateConfig fds message = p at hreads ⊢
  cases hreads with
  | rejected => exact Or.inl ⟨false, rfl⟩
  | flag on => exact oneCall_setState _ hk _ _
  | add hn => exact Or.inr ⟨_, updated, Or.inl rfl, rfl⟩
  | remove hn => exact Or.inr ⟨_, deleted, Or.inl rfl, rfl⟩

lemma oneCall_ratelimit (fds : RateFds) (message : Text) :
    OneCall .ratelimit (RateLimit.updateConfig fds message) := by
  have hreads := RateLimit.reads fds message
  generalize readRateCommand message = c, RateLimit.updateConfig fds message = p at hreads ⊢
  cases hreads with
  | rejected => exact Or.inl ⟨false, rfl⟩
  | flag on => exact oneCall_setState ConfigKey.RATELIMIT rfl _ _
  | add ip hp =>
    rw [RateLimit.addRateLimit, if_neg hp]
    exact Or.inr ⟨_, updated, Or.inl rfl, rfl⟩
  | remove ip => exact Or.inr ⟨_, deleted, Or.inl rfl, rfl⟩

lemma oneCall_configType (c : ConfigType) (message : Text) : OneCall c.kind (c.updateConfig message) := by
  cases c with
  | subnets l fds => cases l <;> exact oneCall_subnets _ fds message
  | ratelimit fds => exact oneCall_ratelimit fds message

lemma OneCall.same {p : SysProg Bool} (hp : OneCall k p) (hf : Local faults)
    (hs : SameFor k h.settings h'.settings) :
    (run (Sys.exec faults) p h).1 = (run (Sys.exec faults) p h').1 ∧
      SameFor k (run (Sys.exec faults) p h).2.settings (run (Sys.exec faults) p h').2.settings := by
  obtain ⟨b, rfl⟩ | ⟨op, f, hop, rfl⟩ := hp
  · exact ⟨rfl, hs⟩
  · obtain ⟨ha, hs⟩ := exec_same hf hop hs
    exact ⟨congrArg f ha, hs⟩

lemma OneCall.other {p : SysProg Bool} (hp : OneCall k p) {i : Option Kind} (hi : i ≠ some k) :
    AgreeOn i (run (Sys.exec faults) p h).2.settings h.settings := by
  obtain ⟨b, rfl⟩ | ⟨op, f, hop, rfl⟩ := hp
  · exact AgreeOn.refl i _
  · exact exec_other hop hi

lemma OneCall.journal {p : SysProg Bool} (hp : OneCall k p) :
    (run (Sys.exec faults) p h).2.journal = h.journal := by
  obtain ⟨b, rfl⟩ | ⟨op, f, hop, rfl⟩ := hp
  · rfl
  · exact (exec_cases faults op hop.ne_report h).1

variable (faults) (configTypes : List ConfigType)

def processLine (h : Host N) (line : Text) : Host N × List Note :=
  let next := (run (Sys.exec faults) (processEventMessage configTypes line) h).2
  (next, next.journal.drop h.journal.length)

def handler (line : Text) : Option (ConfigType × Text) :=
  (splitFirst ':' line).bind (fun x =>
    (configTypes.find? (fun config => config.getTypeName = trim x.1)).map (fun config => (config, trim x.2)))

variable {configTypes} {line : Text}

lemma processLine_of_none (hn : handler configTypes line = none) (h : Host N) :
    processLine faults configTypes h line = (h, []) := by
  have hp : processEventMessage configTypes line = return () := by
    unfold processEventMessage
    unfold handler at hn
    cases hx : splitFirst ':' line with
    | none => rfl
    | some x =>
      rw [hx, Option.bind_some, Option.map_eq_none_iff] at hn
      simp only [hn]
  simp only [processLine, hp, pure_eq, run_ret, List.drop_length]

lemma processLine_of_some {c : ConfigType} {message : Text} (hc : handler configTypes line = some (c, message))
    (h : Host N) :
    (processLine faults configTypes h line).1.settings =
        (run (Sys.exec faults) (c.updateConfig message) h).2.settings ∧
      (processLine faults configTypes h line).2 =
        [.message c.kind message (run (Sys.exec faults) (c.updateConfig message) h).1] := by
  have hp : processEventMessage configTypes line = do
      let answer ← c.updateConfig message
      let _ ← sys (.report (.message c.kind message answer))
      return () := by
    unfold processEventMessage
    obtain ⟨x, hx, hf⟩ := Option.bind_eq_some_iff.mp hc
    obtain ⟨d, hd, he⟩ := Option.map_eq_some_iff.mp hf
    cases he
    simp only [hx, hd]
  have hj : (run (Sys.exec faults) (c.updateConfig message) h).2.journal = h.journal :=
    (oneCall_configType c message).journal
  simp only [processLine, hp, run_bind, sys, perform_bind, run_call, pure_eq, run_ret, Sys.exec, hj,
    List.drop_left, and_self]

lemma handler_kind {c : ConfigType} {message : Text} (hc : handler configTypes line = some (c, message))
    (k : Kind) :
    AddressedTo k line ↔ c.kind = k := by
  obtain ⟨x, hx, hf⟩ := Option.bind_eq_some_iff.mp hc
  obtain ⟨d, hd, he⟩ := Option.map_eq_some_iff.mp hf
  cases he
  have hn : c.kind.typeName = trim x.1 := by
    rw [← c.getTypeName_eq]
    simpa using List.find?_some hd
  have ha : AddressedTo c.kind line := ⟨x, hx, hn.symm⟩
  constructor
  · exact fun hk => ha.unique hk
  · rintro rfl
    exact ha

def Owns (i : Option Kind) (line : Text) : Prop := ∃ k ∈ i, AddressedTo k line

instance (i : Option Kind) (line : Text) : Decidable (Owns i line) := inferInstanceAs (Decidable (∃ k ∈ i, _))

variable {faults} in
lemma separates_processLine (hf : Local faults) :
    Separates (processLine faults configTypes) Owns (fun i h h' => AgreeOn i h.settings h'.settings) where
  own {i line h h'} ho hs := by
    obtain ⟨k, rfl, hk⟩ := ho
    cases hc : handler configTypes line with
    | none =>
      rw [processLine_of_none faults hc, processLine_of_none faults hc]
      exact ⟨rfl, hs⟩
    | some x =>
      obtain ⟨c, message⟩ := x
      obtain rfl := (handler_kind hc k).mp hk
      obtain ⟨h1, h2⟩ := processLine_of_some faults hc h
      obtain ⟨h1', h2'⟩ := processLine_of_some faults hc h'
      obtain ⟨ha, hs⟩ := (oneCall_configType c message).same hf hs
      rw [h2, h2', h1, h1', ha]
      exact ⟨rfl, hs⟩
  other {i line h h'} ho hs := by
    cases hc : handler configTypes line with
    | none =>
      rw [processLine_of_none faults hc]
      exact hs
    | some x =>
      obtain ⟨c, message⟩ := x
      have hi : i ≠ some c.kind := fun hi => ho ⟨c.kind, hi, (handler_kind hc c.kind).mpr rfl⟩
      rw [(processLine_of_some faults hc h).1]
      exact AgreeOn.trans ((oneCall_configType c message).other hi) hs

end Lines

theorem streams_commute {faults : Faults N} (hf : Local faults) (configTypes : List ConfigType)
    {streams : Kind → List Text} (haddr : ∀ k, ∀ line ∈ streams k, AddressedTo k line) (h : Host N)
    {lines lines' : List Text} (hl : Interleaving streams lines) (hl' : Interleaving streams lines') :
    (play (processLine faults configTypes) h lines).settings =
      (play (processLine faults configTypes) h lines').settings ∧
    ∀ k, (outcomes (processLine faults configTypes) h lines).filter (fun x => AddressedTo k x.1) =
      (outcomes (processLine faults configTypes) h lines').filter (fun x => AddressedTo k x.1) := by
  have hsep : Separates (processLine faults configTypes) Owns (fun i h h' => AgreeOn i h.settings h'.settings) :=
    separates_processLine hf
  have hfilter (k : Kind) : lines.filter (AddressedTo k ·) = lines'.filter (AddressedTo k ·) := by
    have hone (i j : Kind) (line : Text) (hi : AddressedTo i line) (hj : AddressedTo j line) : i = j :=
      hi.unique hj
    rw [hl.filter_eq hone haddr, hl'.filter_eq hone haddr]
  have hown (i : Option Kind) : lines.filter (Owns i ·) = lines'.filter (Owns i ·) := by
    cases i with
    | none => simp [Owns]
    | some k => simpa [Owns] using hfilter k
  have hc (i : Option Kind) := hsep.commute (i := i) (fun s t u hs ht => AgreeOn.trans hs (AgreeOn.symm ht))
    (hown i) (AgreeOn.refl i h.settings)
  constructor
  · exact eq_of_agreeOn (fun i => (hc i).1)
  · intro k
    simpa [Owns] using (hc (some k)).2

def morning : Kind → List Text
  | .subnets .blacklist => ["blacklist: add 10.0.0.0/8".toList, "blacklist:enabled".toList]
  | .subnets .whitelist => ["whitelist : add 10.0.0.0/40".toList]
  | .ratelimit => ["ratelimit:add 10.0.0.1 5".toList]

def allTypes : List ConfigType := [.subnets .blacklist ⟨3, 6⟩, .subnets .whitelist ⟨4, 6⟩, .ratelimit ⟨5, 6⟩]

lemma addressedTo_morning (k : Kind) : ∀ line ∈ morning k, AddressedTo k line := by
  cases k with
  | ratelimit => decide +kernel
  | subnets l => cases l <;> decide +kernel

theorem streams_commute_morning :
    (play (processLine (fun _ _ _ => false) allTypes) (⟨.zeroed, 0, []⟩ : Host 4)
        ["blacklist: add 10.0.0.0/8".toList, "whitelist : add 10.0.0.0/40".toList,
          "ratelimit:add 10.0.0.1 5".toList, "blacklist:enabled".toList]).settings =
      (play (processLine (fun _ _ _ => false) allTypes) (⟨.zeroed, 0, []⟩ : Host 4)
        ["ratelimit:add 10.0.0.1 5".toList, "blacklist: add 10.0.0.0/8".toList, "blacklist:enabled".toList,
          "whitelist : add 10.0.0.0/40".toList]).settings :=
  (streams_commute ⟨fun _ _ _ _ _ _ _ => rfl, fun _ _ _ _ _ _ _ _ => rfl⟩ allTypes addressedTo_morning _
    (.cons (i := .subnets .blacklist) rfl (.cons (i := .subnets .whitelist) rfl (.cons (i := .ratelimit) rfl
      (.cons (i := .subnets .blacklist) rfl (.nil (by
        intro k
        cases k with
        | ratelimit => rfl
        | subnets l => cases l <;> rfl))))))
    (.cons (i := .ratelimit) rfl (.cons (i := .subnets .blacklist) rfl (.cons (i := .subnets .blacklist) rfl
      (.cons (i := .subnets .whitelist) rfl (.nil (by
        intro k
        cases k with
        | ratelimit => rfl
        | subnets l => cases l <;> rfl))))))).1

end PacketFilter.Config
