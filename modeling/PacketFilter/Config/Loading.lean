import PacketFilter.Config.Commands
import PacketFilter.Kernel.Verdicts

/-! What packets meet while the configuration files are being loaded. -/

namespace PacketFilter.Config

open Library Library.Programs Library.Scanning Kernel Prog

variable {N : ℕ}

def Covers (s : Settings N) (l : SubnetList) (a : Addr) : Prop :=
  ((subnets s l).lookup ⟨32#32, a⟩).isSome

/-- From `s` to `t` the subnet lists only get longer and are only switched on, and only those in `ls`
are switched at all. -/
structure Grows (ls : Set SubnetList) (s t : Settings N) : Prop where
  flags : ∀ l : SubnetList, s.Enabled l.configKey → t.Enabled l.configKey
  others : ∀ l ∉ ls, t.Enabled l.configKey → s.Enabled l.configKey
  nets : ∀ l net, ((subnets s l).get? net).isSome → ((subnets t l).get? net).isSome

namespace Grows

variable {ls : Set SubnetList} {s t u : Settings N}

lemma refl (s : Settings N) : Grows ls s s := ⟨fun _ h => h, fun _ _ h => h, fun _ _ h => h⟩

lemma trans (h : Grows ls s t) (h' : Grows ls t u) : Grows ls s u :=
  ⟨fun l hl => h'.flags l (h.flags l hl), fun l hk hl => h.others l hk (h'.others l hk hl),
    fun l net hn => h'.nets l net (h.nets l net hn)⟩

lemma mono {ls' : Set SubnetList} (hls : ls ⊆ ls') (h : Grows ls s t) : Grows ls' s t :=
  ⟨h.flags, fun l hl => h.others l (fun hm => hl (hls hm)), h.nets⟩

lemma covers (h : Grows ls s t) {l : SubnetList} {a : Addr} (hc : Covers s l a) : Covers t l a := by
  obtain ⟨net, hn, ha⟩ := (PrefixTable.longest_isSome (subnets s l) a).mp hc
  exact (PrefixTable.longest_isSome (subnets t l) a).mpr ⟨net, h.nets l net hn, ha⟩

end Grows

section Climbing

variable (faults : Faults N)

def Climbs {α : Type} (ls : Set SubnetList) (p : SysProg α) (h : Host N) : Prop :=
  (states (Sys.exec faults) p h).IsChain (fun x y => Grows ls x.settings y.settings)

variable {faults} {ls : Set SubnetList} {α β : Type}

lemma climbs_ret (a : α) (h : Host N) : Climbs faults ls (return a) h := List.isChain_singleton h

lemma Climbs.bind {p : SysProg α} {f : α → SysProg β} {h : Host N} (hp : Climbs faults ls p h)
    (hf : Climbs faults ls (f (run (Sys.exec faults) p h).1) (run (Sys.exec faults) p h).2) :
    Climbs faults ls (p >>= f) h :=
  isChain_states_bind hp hf

lemma Climbs.grows {p : SysProg α} {h : Host N} (hp : Climbs faults ls p h) :
    Grows ls h.settings (run (Sys.exec faults) p h).2.settings :=
  (rel_of_isChain_states (R := fun x y : Host N => Grows ls x.settings y.settings) (fun _ => Grows.refl _)
    (fun _ _ _ => Grows.trans) hp h (head_mem_states _ _ _)).2

lemma Climbs.mono {ls' : Set SubnetList} (hls : ls ⊆ ls') {p : SysProg α} {h : Host N}
    (hp : Climbs faults ls p h) : Climbs faults ls' p h :=
  List.IsChain.imp (fun _ _ => Grows.mono hls) hp

lemma climbs_sys {op : Sys} {f : Except Errno Unit → α} {h : Host N}
    (ha : ∀ s, op.apply h.settings = .ok s → Grows ls h.settings s) :
    Climbs faults ls (do return f (← sys op)) h := by
  refine isChain_states_call.mpr ⟨?_, List.isChain_singleton _⟩
  by_cases hop : ∃ note, op = .report note
  · obtain ⟨note, rfl⟩ := hop
    exact Grows.refl _
  · have hr : ∀ note, op ≠ .report note := fun note hn => hop ⟨note, hn⟩
    obtain ⟨_, ⟨_, hs⟩ | ⟨e, _, hs, _⟩⟩ := exec_cases faults op hr h
    · exact ha _ hs
    · rw [hs]
      exact Grows.refl _

lemma enabled_update (s : Settings N) {key : BitVec 32} (hlt : key.toNat < 20) (value : BitVec 8) (k : BitVec 32) :
    Settings.Enabled { s with configState := Function.update s.configState ⟨key.toNat, hlt⟩ value } k ↔
      if k = key then value = 1 else s.Enabled k := by
  by_cases hk : k = key
  · subst k
    simp [Settings.Enabled, arrayLookup, hlt]
  · have hn : k.toNat ≠ key.toNat := fun h => hk (BitVec.eq_of_toNat_eq h)
    simp [Settings.Enabled, arrayLookup, hk, Function.update, hn]

lemma climbs_setState {fd : ℤ} {key : BitVec 32} {value : BitVec 8} {h : Host N}
    (hk : ∀ l : SubnetList, l.configKey = key → l ∈ ls)
    (hv : value = 1 ∨ ∀ l : SubnetList, l.configKey = key → ¬ h.settings.Enabled key) :
    Climbs faults ls (setState fd key value) h := by
  apply climbs_sys
  intro s hs
  simp only [Sys.apply] at hs
  split_ifs at hs with hlt
  cases hs
  constructor
  case flags =>
    intro l hl
    rw [enabled_update]
    split_ifs with hl'
    · rcases hv with hv | hv
      · exact hv
      · exact absurd (hl' ▸ hl) (hv l hl')
    · exact hl
  case others =>
    intro l hne hl
    rw [enabled_update] at hl
    split_ifs at hl with hl'
    · exact absurd (hk l hl') hne
    · exact hl
  case nets =>
    intro l net hn
    cases l <;> exact hn

lemma climbs_updateSubnets {l : SubnetList} {fd : ℤ} {key : IPSubnet} {value : BitVec 8}
    {f : Except Errno Unit → α} {h : Host N} :
    Climbs faults ls (do return f (← sys (.updateSubnets l fd key value))) h := by
  apply climbs_sys
  intro s hs
  simp only [Sys.apply] at hs
  split at hs
  · cases hs
  · rename_i net _
    split at hs
    · cases hs
    · rename_i t ht
      cases hs
      constructor
      case flags => cases l <;> exact fun _ hl => hl
      case others => cases l <;> exact fun _ _ hl => hl
      case nets =>
        intro l' n hn
        by_cases hl : l' = l
        · subst l'
          have hg : ((subnets (setSubnets h.settings l t) l).get? n) = t.get? n := by cases l <;> rfl
          rw [hg, BoundedMap.get?_update ht]
          split_ifs
          · rfl
          · exact hn
        · cases l <;> cases l' <;> first | exact hn | exact absurd rfl hl

lemma token_addPrefix (line : Text) : (token (addPrefix line)).1 = ADD := rfl

lemma climbs_addLine (l : SubnetList) (fds : ListFds) (line : Text) (h : Host N) :
    Climbs faults ls (l.updateConfig fds (addPrefix line)) h := by
  have h1 : ¬ ADD = ENABLED := by decide
  have h2 : ¬ ADD = DISABLED := by decide
  simp only [SubnetList.updateConfig, token_addPrefix, h1, h2, if_false, if_true]
  split_ifs
  · exact climbs_ret false h
  · split
    · exact climbs_ret false h
    · exact climbs_updateSubnets

lemma climbs_rateLimits {op : Sys} (hop : (∃ fd ip config, op = .updateRateLimits fd ip config) ∨
    ∃ fd ip, op = .deleteRateLimits fd ip) {f : Except Errno Unit → α} {h : Host N} :
    Climbs faults ls (do return f (← sys op)) h := by
  apply climbs_sys
  intro s hs
  have hl : s.configState = h.settings.configState ∧ s.whitelistSubnets = h.settings.whitelistSubnets ∧
      s.blacklistSubnets = h.settings.blacklistSubnets := by
    obtain ⟨fd, ip, config, rfl⟩ | ⟨fd, ip, rfl⟩ := hop
    · simp only [Sys.apply] at hs
      split at hs
      · cases hs
      · cases hs
        exact ⟨rfl, rfl, rfl⟩
    · simp only [Sys.apply] at hs
      split_ifs at hs
      cases hs
      exact ⟨rfl, rfl, rfl⟩
  obtain ⟨hc, hw, hb⟩ := hl
  constructor
  case flags =>
    intro l hl
    rwa [Settings.Enabled, hc]
  case others =>
    intro l _ hl
    rwa [Settings.Enabled, hc] at hl
  case nets =>
    intro l net hn
    cases l with
    | blacklist => rwa [subnets, hb]
    | whitelist => rwa [subnets, hw]

lemma configKey_ne_ratelimit (l : SubnetList) : l.configKey ≠ ConfigKey.RATELIMIT := by
  cases l <;> decide

lemma climbs_rateUpdate (fds : RateFds) (message : Text) (h : Host N) :
    Climbs faults ls (RateLimit.updateConfig fds message) h := by
  simp only [RateLimit.updateConfig]
  split_ifs
  · exact climbs_setState (fun l hl => (configKey_ne_ratelimit l hl).elim) (Or.inl rfl)
  · exact climbs_setState (fun l hl => (configKey_ne_ratelimit l hl).elim)
      (Or.inr (fun l hl => (configKey_ne_ratelimit l hl).elim))
  · exact climbs_ret false h
  · split
    · exact climbs_ret false h
    · split
      · exact climbs_ret false h
      · rw [RateLimit.addRateLimit]
        split_ifs
        · exact climbs_ret false h
        · exact climbs_rateLimits (Or.inl ⟨_, _, _, rfl⟩)
  · split
    · exact climbs_ret false h
    · exact climbs_rateLimits (Or.inr ⟨_, _, rfl⟩)
  · split <;> exact climbs_ret false h

lemma Climbs.reported {p : SysProg Bool} {h : Host N} (hp : Climbs faults ls p h) (note : Bool → Note)
    (b : Bool → β) : Climbs faults ls (do
      let answer ← p
      let _ ← sys (.report (note answer))
      return b answer) h := by
  refine hp.bind ?_
  exact climbs_sys (by rintro s ⟨rfl⟩; exact Grows.refl _)

section Loader

variable {ld : Loader} (hen : ∀ h : Host N, Climbs faults ls ld.enable h)
  (hup : ∀ line (h : Host N), Climbs faults ls (ld.updateConfig (ld.commandLine line)) h)

include hup in
lemma climbs_applyLine (line : Text) (h : Host N) : Climbs faults ls (ld.applyLine line) h := by
  rw [Loader.applyLine]
  split_ifs
  · exact climbs_ret () h
  · exact (hup line h).reported (.message ld.kind (ld.commandLine line)) (fun _ => ())

include hup in
lemma climbs_loadRest (lines : List Text) (h : Host N) : Climbs faults ls (ld.loadLines false lines) h := by
  induction lines generalizing h with
  | nil => exact climbs_ret true h
  | cons line rest ih =>
    rw [Loader.loadLines]
    split_ifs
    · exact ih h
    · exact (climbs_applyLine hup line h).bind (ih _)

include hen hup in
lemma climbs_loadLines (lines : List Text) {h : Host N} (hdis : Climbs faults ls ld.disable h) :
    Climbs faults ls (ld.loadLines true lines) h := by
  have hflag (on : Bool) : Climbs faults ls (ld.setFlag on) h := by
    cases on with
    | true => exact (hen h).reported (.flag ld.kind true) id
    | false => exact hdis.reported (.flag ld.kind false) id
  induction lines with
  | nil => exact hflag _
  | cons line rest ih =>
    rw [Loader.loadLines]
    split_ifs
    · exact ih
    · exact hflag false
    · refine (hflag true).bind ?_
      split
      · exact (climbs_applyLine hup line _).bind (climbs_loadRest hup rest _)
      · exact climbs_ret false _

end Loader

lemma configKey_injective {l l' : SubnetList} (h : l.configKey = l'.configKey) : l = l' := by
  cases l <;> cases l' <;> first | rfl | exact absurd h (by decide)

lemma climbs_enable (l : SubnetList) (fds : ListFds) (h : Host N) : Climbs faults {l} (l.enable fds) h :=
  climbs_setState (fun _ hl => configKey_injective hl) (Or.inl rfl)

lemma climbs_disable {l : SubnetList} (fds : ListFds) {h : Host N} (hl : ¬ h.settings.Enabled l.configKey) :
    Climbs faults {l} (l.disable fds) h :=
  climbs_setState (fun _ hl => configKey_injective hl) (Or.inr (fun _ _ => hl))

lemma climbs_blacklist (mgr : MapFdManager) (file : Option Text) {h : Host N}
    (hl : ¬ h.settings.Enabled SubnetList.blacklist.configKey) :
    Climbs faults {.blacklist} (Blacklist.loadConfig mgr file) h := by
  obtain ⟨r, hr⟩ | ⟨fds, text, hr⟩ := Blacklist.loadConfig_cases mgr file
  · rw [hr]
    exact climbs_ret r h
  · rw [hr]
    refine Climbs.bind ?_ (climbs_ret _ _)
    exact climbs_loadLines (climbs_enable .blacklist fds) (climbs_addLine .blacklist fds) _ (climbs_disable fds hl)

lemma climbs_whitelist (mgr : MapFdManager) (file : Option Text) {h : Host N}
    (hl : ¬ h.settings.Enabled SubnetList.whitelist.configKey) :
    Climbs faults {.whitelist} (Whitelist.loadConfig mgr file) h := by
  obtain ⟨r, hr⟩ | ⟨fds, text, hr⟩ := Whitelist.loadConfig_cases mgr file
  · rw [hr]
    exact climbs_ret r h
  · rw [hr]
    refine Climbs.bind ?_ (climbs_ret _ _)
    exact climbs_loadLines (climbs_enable .whitelist fds) (climbs_addLine .whitelist fds) _ (climbs_disable fds hl)

lemma climbs_ratelimit (mgr : MapFdManager) (file : Option Text) (h : Host N) :
    Climbs faults ∅ (RateLimit.loadConfig mgr file) h := by
  obtain ⟨r, hr⟩ | ⟨fds, text, hr⟩ := RateLimit.loadConfig_cases mgr file
  · rw [hr]
    exact climbs_ret r h
  · rw [hr]
    refine Climbs.bind ?_ (climbs_ret _ _)
    apply climbs_loadLines
    · exact fun h => climbs_setState (fun l hl => (configKey_ne_ratelimit l hl).elim) (Or.inl rfl)
    · exact fun line h => climbs_rateUpdate fds _ h
    · exact climbs_setState (fun l hl => (configKey_ne_ratelimit l hl).elim)
        (Or.inr (fun l hl => (configKey_ne_ratelimit l hl).elim))

lemma climbs_loadAllConfigs (mgr : MapFdManager) (files : Files) {h : Host N}
    (hl : ∀ l : SubnetList, ¬ h.settings.Enabled l.configKey) :
    Climbs faults Set.univ (loadAllConfigs mgr files) h := by
  have hb : Climbs faults {.blacklist} (Blacklist.loadConfig mgr files.blacklist) h :=
    climbs_blacklist mgr files.blacklist (hl .blacklist)
  have hw : ¬ (run (Sys.exec faults) (Blacklist.loadConfig mgr files.blacklist) h).2.settings.Enabled
      SubnetList.whitelist.configKey := fun he => hl .whitelist (hb.grows.others .whitelist (by simp) he)
  refine (hb.mono (Set.subset_univ _)).bind ?_
  refine ((climbs_whitelist mgr files.whitelist hw).mono (Set.subset_univ _)).bind ?_
  refine ((climbs_ratelimit mgr files.ratelimit _).mono (Set.subset_univ _)).bind ?_
  exact climbs_ret _ _

end Climbing

def Host.attached : Host N := ⟨.zeroed, 0, []⟩

lemma not_enabled_attached (l : SubnetList) : ¬ (Host.attached : Host N).settings.Enabled l.configKey := by
  cases l <;> simp [Host.attached, Settings.zeroed, Settings.Enabled, SubnetList.configKey, arrayLookup,
    ConfigKey.BLACKLIST, ConfigKey.WHITELIST]

lemma not_whitelistDrops_iff (s : Settings N) (a : Addr) :
    ¬ s.WhitelistDrops a ↔ (s.Enabled CONFIG_KEY_WHITELIST → Covers s .whitelist a) := by
  rw [Settings.WhitelistDrops, not_and, Covers, Option.isSome_iff_ne_none]
  rfl

theorem allowed_dropped_only_before_covered (faults : Faults N) (mgr : MapFdManager) (files : Files) (a : Addr)
    (hwhite : ¬ (run (Sys.exec faults) (loadAllConfigs mgr files) .attached).2.settings.WhitelistDrops a)
    (hblack : ¬ (run (Sys.exec faults) (loadAllConfigs mgr files) .attached).2.settings.BlacklistDrops a) :
    ∃ before window after : List (Host N),
      states (Sys.exec faults) (loadAllConfigs mgr files) .attached = before ++ window ++ after ∧
      (∀ h ∈ before, ¬ h.settings.Enabled CONFIG_KEY_WHITELIST) ∧
      (∀ h ∈ window, h.settings.Enabled CONFIG_KEY_WHITELIST ∧ ¬ Covers h.settings .whitelist a) ∧
      (∀ h ∈ after, h.settings.Enabled CONFIG_KEY_WHITELIST ∧ Covers h.settings .whitelist a) ∧
      (window ≠ [] → after ≠ []) ∧
      (∀ h ∈ before ++ window ++ after, ¬ h.settings.BlacklistDrops a) ∧
      ∀ h ∈ before ++ after, ∀ (m : Maps N) (f : Frame) (inp : Input), m.settings = h.settings → f.saddr = a →
        (run (exec inp) (xdpFilter f) m).1 = .drop → m.RatelimitDrops inp.now a := by
  have hc : Climbs faults Set.univ (loadAllConfigs mgr files) (.attached : Host N) :=
    climbs_loadAllConfigs mgr files not_enabled_attached
  have hb (h : Host N) (hm : h ∈ states (Sys.exec faults) (loadAllConfigs mgr files) .attached) :
      ¬ h.settings.BlacklistDrops a := by
    have hg := (rel_of_isChain_states (R := fun x y : Host N => Grows Set.univ x.settings y.settings)
      (fun _ => Grows.refl _) (fun _ _ _ => Grows.trans) hc h hm).2
    exact fun hd => hblack ⟨hg.flags .blacklist hd.1, hg.covers (l := .blacklist) hd.2⟩
  obtain ⟨before, on, hs, hoff, hon⟩ := exists_split_of_isChain (P := fun h : Host N =>
    h.settings.Enabled CONFIG_KEY_WHITELIST) (List.IsChain.imp (fun _ _ hg => hg.flags .whitelist) hc)
  obtain ⟨window, after, rfl, hout, hin⟩ := exists_split_of_isChain (P := fun h : Host N =>
    Covers h.settings .whitelist a) (l := on) (by
      have hch : (before ++ on).IsChain (fun x y : Host N => Covers x.settings .whitelist a →
          Covers y.settings .whitelist a) := hs ▸ List.IsChain.imp (fun _ _ hg => hg.covers) hc
      exact hch.right_of_append)
  rw [← List.append_assoc] at hs
  refine ⟨before, window, after, hs, hoff, ?_, ?_, ?_, ?_, ?_⟩
  · exact fun h hm => ⟨hon h (List.mem_append_left _ hm), hout h hm⟩
  · exact fun h hm => ⟨hon h (List.mem_append_right _ hm), hin h hm⟩
  · rintro hne rfl
    have hlast := getLast?_states (Sys.exec faults) (loadAllConfigs mgr files) .attached
    rw [hs, List.append_nil, List.getLast?_append_of_ne_nil _ hne] at hlast
    have hm := List.mem_of_getLast? hlast
    have he := hon _ (List.mem_append_left _ hm)
    exact hout _ hm ((not_whitelistDrops_iff _ a).mp hwhite he)
  · exact fun h hm => hb h (hs ▸ hm)
  · rintro h hm m f inp hset rfl hd
    have hw : ¬ m.settings.WhitelistDrops f.saddr := by
      rw [hset, not_whitelistDrops_iff]
      rcases List.mem_append.mp hm with hm | hm
      · exact fun he => absurd he (hoff h hm)
      · exact fun _ => hin h hm
    have hbl : ¬ m.settings.BlacklistDrops f.saddr := by
      rw [hset]
      apply hb h
      rw [hs]
      rcases List.mem_append.mp hm with hm | hm
      · exact List.mem_append_left _ (List.mem_append_left _ hm)
      · exact List.mem_append_right _ hm
    rw [run_xdpFilter] at hd
    split_ifs at hd
    exact (((Maps.verdict_eq_drop _ _ _).mp hd).resolve_left hw).resolve_left hbl

def oneNetwork : Files := ⟨none, some "10.0.0.0/8".toList, none⟩

theorem allowed_dropped_while_loading :
    ¬ (run (Sys.exec (N := 4) (fun _ _ _ => false)) (loadAllConfigs ⟨fun _ => 3⟩ oneNetwork)
      .attached).2.settings.WhitelistDrops 0x0A000001#32 ∧
    ¬ (run (Sys.exec (N := 4) (fun _ _ _ => false)) (loadAllConfigs ⟨fun _ => 3⟩ oneNetwork)
      .attached).2.settings.BlacklistDrops 0x0A000001#32 ∧
    ∃ h ∈ states (Sys.exec (N := 4) (fun _ _ _ => false)) (loadAllConfigs ⟨fun _ => 3⟩ oneNetwork) .attached,
      (run (exec ⟨0#64, false⟩) (xdpFilter (.source 0x0A000001#32))
        { Maps.zeroed with settings := h.settings }).1 =
        .drop := by
  decide +kernel

theorem allowed_dropped_only_before_network :
    ∃ before window after : List (Host 4),
      states (Sys.exec (fun _ _ _ => false)) (loadAllConfigs ⟨fun _ => 3⟩ oneNetwork) .attached =
        before ++ window ++ after ∧ ∀ h ∈ before ++ window ++ after,
          ¬ h.settings.BlacklistDrops 0x0A000001#32 := by
  obtain ⟨before, window, after, hs, _, _, _, _, hb, _⟩ := allowed_dropped_only_before_covered (N := 4)
    (fun _ _ _ => false) ⟨fun _ => 3⟩ oneNetwork 0x0A000001#32 (by decide +kernel) (by decide +kernel)
  exact ⟨before, window, after, hs, hb⟩

end PacketFilter.Config
