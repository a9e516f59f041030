import PacketFilter.Kernel.Independence
import PacketFilter.Kernel.Sources

/-! Two runs over the same frames, one under tighter lists than the other. -/

namespace PacketFilter.Kernel

open Library

variable {N : ℕ}

/-- The same flags and limits, with more addresses on the blacklist and fewer on the whitelist. -/
structure Tighter (s s' : Settings N) : Prop where
  flags : ∀ key ∈ [CONFIG_KEY_WHITELIST, CONFIG_KEY_BLACKLIST, CONFIG_KEY_RATELIMIT],
    s'.Enabled key ↔ s.Enabled key
  limits : ∀ a, s'.ipRateLimits.get? a = s.ipRateLimits.get? a
  blacklist : ∀ a, (s.blacklistSubnets.lookup ⟨32#32, a⟩).isSome → (s'.blacklistSubnets.lookup ⟨32#32, a⟩).isSome
  whitelist : ∀ a, (s'.whitelistSubnets.lookup ⟨32#32, a⟩).isSome → (s.whitelistSubnets.lookup ⟨32#32, a⟩).isSome

def Settings.ListDrops (s : Settings N) (a : Addr) : Prop := s.WhitelistDrops a ∨ s.BlacklistDrops a

namespace Tighter

variable {s s' : Settings N} (h : Tighter s s')
include h

lemma listDrops {a : Addr} (hd : s.ListDrops a) : s'.ListDrops a := by
  rcases hd with ⟨he, hn⟩ | ⟨he, hs⟩
  · refine Or.inl ⟨(h.flags _ (by simp)).mpr he, ?_⟩
    have hw := mt (h.whitelist a)
    simpa [hn] using hw
  · exact Or.inr ⟨(h.flags _ (by simp)).mpr he, h.blacklist a hs⟩

lemma limitInForce (a : Addr) : s'.limitInForce a = s.limitInForce a := by
  have hf := h.flags CONFIG_KEY_RATELIMIT (by simp)
  simp only [Settings.limitInForce, h.limits, hf]

end Tighter

structure Simulates (m m' : Maps N) : Prop where
  tighter : Tighter m.settings m'.settings
  timestamps : ∀ a, ¬ m'.settings.ListDrops a → m'.ipTimestamps.get? a = m.ipTimestamps.get? a

namespace Simulates

variable {m m' : Maps N}

lemma drops_iff (h : Simulates m m') {a : Addr} (ha : ¬ m'.settings.ListDrops a) (now : BitVec 64) :
    m'.Drops now a ↔ m.Drops now a := by
  have hm : ¬ m.settings.ListDrops a := fun hd => ha (h.tighter.listDrops hd)
  have hr : m'.RatelimitDrops now a ↔ m.RatelimitDrops now a := by
    rw [Maps.RatelimitDrops, Maps.RatelimitDrops, h.tighter.limitInForce, h.timestamps a ha]
  simp only [Settings.ListDrops, not_or] at ha hm
  simp only [Maps.Drops, ha.1, ha.2, hm.1, hm.2, false_or, hr]

lemma verdict (h : Simulates m m') {now : BitVec 64} {a : Addr} (hv : m'.verdict now a = .pass) :
    m.verdict now a = .pass := by
  have hd : ¬ m'.Drops now a := fun hd => by simp [Maps.verdict, hd] at hv
  have ha : ¬ m'.settings.ListDrops a := by
    rintro (hw | hb)
    · exact hd (Or.inl hw)
    · exact hd (Or.inr (Or.inl hb))
  rw [Maps.verdict, if_neg (mt (h.drops_iff ha now).mpr hd)]

lemma passesLimit_iff (h : Simulates m m') {f : Frame} {inp inp' : Input} (hnow : inp'.now = inp.now)
    (hs : m.HasSlot inp) (hs' : m'.HasSlot inp') {a : Addr} (ha : ¬ m'.settings.ListDrops a) :
    PassesLimit m' a (.packet f inp') ↔ PassesLimit m a (.packet f inp) := by
  simp only [PassesLimit, Checked, hs, hs', true_and, h.tighter.limitInForce, verdict?_packet, and_true]
  refine and_congr_right ?_
  rintro ⟨hf, rfl⟩
  simp only [hf, if_true, Option.some.injEq, Maps.verdict, hnow, h.drops_iff ha]

lemma packet (h : Simulates m m') {f : Frame} {inp inp' : Input} (hnow : inp'.now = inp.now)
    (hs : m.HasSlot inp) (hs' : m'.HasSlot inp') (hroom : ¬ m.ipTimestamps.Full)
    (hroom' : ¬ m'.ipTimestamps.Full) :
    Simulates (step m (.packet f inp)) (step m' (.packet f inp')) := by
  constructor
  case tighter =>
    rw [settings_packet, settings_packet]
    exact h.tighter
  case timestamps =>
    rw [settings_packet]
    intro a ha
    have hr : ¬ m.ipTimestamps.Refuses a := fun hr => hroom hr.2
    have hr' : ¬ m'.ipTimestamps.Refuses a := fun hr => hroom' hr.2
    rw [get?_timestamps_step, get?_timestamps_step]
    simp only [hr, hr', not_false_eq_true, and_true, h.passesLimit_iff hnow hs hs' ha, h.timestamps a ha,
      Event.time?, hnow]

lemma consume (h : Simulates m m') (n : ℕ) : Simulates (step m (.consume n)) m' := ⟨h.tighter, h.timestamps⟩

end Simulates

lemma arrivals_cons (e : Event N) (es : List (Event N)) :
    arrivals (e :: es) = e.arrival?.toList ++ arrivals es := by
  cases h : e.arrival? <;> simp [arrivals, h]

lemma verdicts_eq_nil (m : Maps N) {es : List (Event N)} (h : arrivals es = []) : verdicts m es = [] := by
  induction es generalizing m with
  | nil => rfl
  | cons e es ih =>
    rw [arrivals_cons] at h
    cases e with
    | packet f inp => cases h
    | configure s => cases h
    | consume n =>
      rw [verdicts_cons, ih _ h]
      rfl

lemma exists_next_packet {m : Maps N} {es : List (Event N)} {f : Frame} {now : BitVec 64}
    {rest : List (Frame × BitVec 64 ⊕ Settings N)} (hq : Quiet m es) (ha : arrivals es = .inl (f, now) :: rest) :
    ∃ (m' : Maps N) (inp : Input) (es' : List (Event N)), m'.settings = m.settings ∧
      m'.ipTimestamps = m.ipTimestamps ∧ inp.now = now ∧ arrivals es' = rest ∧ Quiet m' (.packet f inp :: es') ∧
      verdicts m es = verdicts m' (.packet f inp :: es') := by
  induction es generalizing m with
  | nil => cases ha
  | cons e es ih =>
    obtain ⟨⟨hs, _⟩, hq'⟩ := quiet_cons.mp hq
    rw [arrivals_cons] at ha
    cases e with
    | configure s => exact hs.elim
    | packet f' inp =>
      obtain ⟨he, hrest⟩ := List.cons.inj ha
      cases he
      exact ⟨m, inp, es, rfl, rfl, rfl, hrest, hq, rfl⟩
    | consume n =>
      obtain ⟨m', inp, es', h1, h2, h3, h4, h5, h6⟩ := ih hq' ha
      refine ⟨m', inp, es', h1, h2, h3, h4, h5, ?_⟩
      rw [verdicts_cons, ← h6]
      rfl

lemma verdict?_served {m : Maps N} {f : Frame} {inp : Input} (h : m.HasSlot inp) :
    verdict? m (.packet f inp) = some (if f.IsIpv4 then m.verdict inp.now f.saddr else .pass) := by
  simp only [verdict?_packet, h, and_true]

lemma Simulates.verdicts {m m' : Maps N} (h : Simulates m m') {es es' : List (Event N)}
    (ha : arrivals es' = arrivals es) (hq : Quiet m es) (hq' : Quiet m' es') :
    List.Forall₂ (fun v v' => v' = .pass → v = .pass) (verdicts m es) (verdicts m' es') := by
  induction es generalizing m m' es' with
  | nil =>
    rw [verdicts_eq_nil m' ha]
    exact List.Forall₂.nil
  | cons e es ih =>
    obtain ⟨⟨hs, hroom⟩, hq⟩ := quiet_cons.mp hq
    rw [arrivals_cons] at ha
    rw [verdicts_cons]
    cases e with
    | configure s => exact hs.elim
    | consume n => exact ih (h.consume n) ha hq hq'
    | packet f inp =>
      obtain ⟨m'', inp', es'', hset, hts, hnow, ha, hq', hv⟩ := exists_next_packet hq' ha
      obtain ⟨⟨hs', hroom'⟩, hq'⟩ := quiet_cons.mp hq'
      have hsim : Simulates m m'' := ⟨hset.symm ▸ h.tighter, hset.symm ▸ hts.symm ▸ h.timestamps⟩
      rw [hv, verdicts_cons, verdict?_served hs, verdict?_served hs', hnow]
      refine List.Forall₂.cons ?_ (ih (hsim.packet hnow hs hs' hroom hroom') ha hq hq')
      split_ifs
      · exact hsim.verdict
      · exact id

theorem tighter_lists_pass_less (m m' : Maps N) (es es' : List (Event N)) (ht : Tighter m.settings m'.settings)
    (hts : ∀ a, m'.ipTimestamps.get? a = m.ipTimestamps.get? a) (ha : arrivals es' = arrivals es)
    (hq : Quiet m es) (hq' : Quiet m' es') :
    List.Forall₂ (fun v v' => v' = .pass → v = .pass) (verdicts m es) (verdicts m' es') :=
  Simulates.verdicts ⟨ht, fun a _ => hts a⟩ ha hq hq'

def guarded (blacklist : SubnetsMap (N + 1)) (a : Addr) (limit : IpRateLimit) : Maps (N + 1) :=
  { limiting a limit with
    settings := { (limiting a limit).settings with
      configState := Function.update (Function.update (fun _ => 0) 0 1) 1 1
      blacklistSubnets := blacklist } }

def blocking (net : Network 32) : SubnetsMap (N + 1) := (BoundedMap.empty.update net 1).getD .empty

lemma tighter_guarded (net : Network 32) (a : Addr) (limit : IpRateLimit) :
    Tighter (guarded (N := N) .empty a limit).settings (guarded (blocking net) a limit).settings where
  flags key _ := Iff.rfl
  limits _ := rfl
  blacklist c hc := by
    obtain ⟨net, hn, _⟩ := (PrefixTable.longest_isSome BoundedMap.empty c).mp hc
    cases hn
  whitelist _ h := h

def openRun : List (Event N) :=
  [.packet (.source 0x0A000001#32) ⟨5, false⟩, .packet (.source 0x0A000002#32) ⟨6, false⟩,
    .packet (.source 0x0A000001#32) ⟨7, false⟩]

def blockedRun : List (Event N) :=
  [.packet (.source 0x0A000001#32) ⟨5, false⟩, .consume 1, .packet (.source 0x0A000002#32) ⟨6, false⟩,
    .packet (.source 0x0A000001#32) ⟨7, false⟩]

theorem tighter_lists_pass_less_guarded :
    verdicts (guarded (blocking (.of 32 le_rfl 0x0A000002#32)) 0x0A000001#32 ⟨1, 1000000000⟩ : Maps 8) blockedRun =
      [XdpAction.pass, .drop, .drop] ∧
    List.Forall₂ (fun v v' => v' = .pass → v = .pass)
      (verdicts (guarded .empty 0x0A000001#32 ⟨1, 1000000000⟩ : Maps 8) openRun)
      (verdicts (guarded (blocking (.of 32 le_rfl 0x0A000002#32)) 0x0A000001#32
        ⟨1, 1000000000⟩ : Maps 8) blockedRun) :=
  ⟨by decide +kernel, tighter_lists_pass_less _ _ _ _ (tighter_guarded _ _ _) (fun _ => rfl) rfl
    (by decide +kernel) (by decide +kernel)⟩

end PacketFilter.Kernel
