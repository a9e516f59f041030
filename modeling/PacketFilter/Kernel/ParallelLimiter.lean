import PacketFilter.Kernel.Limiter
import PacketFilter.Kernel.Pool

/-! The rate-limit check on several processors: what keeps the packets of one address apart. -/

namespace PacketFilter.Kernel

open Library Library.Machines Library.Spacing Point

variable {n N : ℕ}

abbrev Timestamps (N : ℕ) := CellMap Addr PacketTimestamp N

def Point.inCheck : Point → Bool
  | .timestampCreate _ _ | .timestampLoad _ _ _ _ | .timestampStore _ _ _ => true
  | _ => false

def InCheck (a : Addr) (t : Thread) : Prop := t.frame.saddr = a ∧ t.point.inCheck

def Pool.passesOf (p : Pool n N) (a : Addr) : List ℕ := (p.passes.filter (·.1 = a)).map (·.2.toNat)

def Point.lookupTime? : Point → Option (BitVec 64)
  | .timestampLookup now _ _ => some now
  | _ => none

def Point.creates : Point → Bool
  | .timestampCreate _ _ => true
  | _ => false

/-- A call for `a` comes to its timestamp alone, not behind it, and finds room to record a first one. -/
def Exclusive (a : Addr) (p : Pool n N) : Tick n → Prop
  | .run i _ => (p.threads i).frame.saddr = a →
      (∀ now ∈ (p.threads i).point.lookupTime?,
        (∀ j, ¬ InCheck a (p.threads j)) ∧ ∀ t ∈ p.maps.ipTimestamps.get? a, t.lastTimestamp ≤ now) ∧
      ((p.threads i).point.creates → ¬ p.maps.ipTimestamps.Refuses a)
  | .consume _ => True

instance (a : Addr) (t : Thread) : Decidable (InCheck a t) := inferInstanceAs (Decidable (_ ∧ _))

instance (a : Addr) (p : Pool n N) : (tick : Tick n) → Decidable (Exclusive a p tick)
  | .run i _ =>
    have : Decidable (∀ now ∈ (p.threads i).point.lookupTime?, (∀ j, ¬ InCheck a (p.threads j)) ∧
        ∀ t ∈ p.maps.ipTimestamps.get? a, t.lastTimestamp ≤ now) := Option.decidableForallMem _
    inferInstanceAs (Decidable (_ → _ ∧ _))
  | .consume _ => isTrue trivial

def Recorded (a : Addr) (ts : Timestamps N) (passes : List ℕ) : Prop :=
  ∀ x ∈ passes, ∃ t : BitVec 64, ts.get? a = some ⟨t⟩ ∧ x ≤ t.toNat

def Point.Knows (a : Addr) (limit : IpRateLimit) (ts : Timestamps N) (passes : List ℕ) : Point → Prop
  | .timestampLookup _ _ l => l = limit
  | .timestampLoad now _ l q => l = limit ∧ ts.lookup a = some q ∧ Recorded a ts passes ∧
      ∃ t : BitVec 64, ts.get? a = some ⟨t⟩ ∧ t ≤ now
  | .timestampCreate now _ => ts.lookup a = none ∧ ∀ x ∈ passes, x ≤ now.toNat
  | .timestampStore now _ q => ts.lookup a = some q ∧ (∃ t : BitVec 64, ts.get? a = some ⟨t⟩ ∧ t ≤ now) ∧
      ∀ x ∈ passes, x ≤ now.toNat
  | _ => True

def Point.Keeps (a : Addr) (ts : Timestamps N) : Point → Prop
  | .timestampLoad _ _ _ q | .timestampStore _ _ q => q < ts.cells.length ∧ ts.lookup a ≠ some q
  | _ => True

structure Guarded (a : Addr) (limit : IpRateLimit) (p : Pool n N) : Prop where
  inForce : p.maps.settings.limitInForce a = some limit
  alone : ∀ i j, InCheck a (p.threads i) → InCheck a (p.threads j) → i = j
  spaced : (p.passesOf a).Pairwise (Apart limit.packetIntervalNs.toNat)
  own : ∀ i, (p.threads i).frame.saddr = a →
    (p.threads i).point.Knows a limit p.maps.ipTimestamps (p.passesOf a)
  others : ∀ i, (p.threads i).frame.saddr ≠ a → (p.threads i).point.Keeps a p.maps.ipTimestamps
  recorded : (∀ i, ¬ InCheck a (p.threads i)) → Recorded a p.maps.ipTimestamps (p.passesOf a)

lemma guarded_start {a : Addr} {limit : IpRateLimit} {m : Maps N} (hl : m.settings.limitInForce a = some limit)
    (frames : Fin n → Frame) : Guarded a limit (.start frames m) where
  inForce := hl
  alone i j h := by cases h.2
  spaced := List.Pairwise.nil
  own _ _ := trivial
  others _ _ := trivial
  recorded _ _ h := by cases h

lemma passesOf_move (p : Pool n N) (i : Fin n) (pt : Point) (m : Maps N) (a : Addr) :
    (p.move i pt m).passesOf a =
      p.passesOf a ++ if (p.threads i).frame.saddr = a then pt.passTime?.toList.map BitVec.toNat else [] := by
  cases h : pt.passTime? with
  | none => simp [Pool.passesOf, Pool.move, h]
  | some now =>
    by_cases ha : (p.threads i).frame.saddr = a <;> simp [Pool.passesOf, Pool.move, h, ha]

structure Unmoved (a : Addr) (ts ts' : Timestamps N) : Prop where
  lookup : ts'.lookup a = ts.lookup a
  get? : ts'.get? a = ts.get? a
  cells : ts.cells.length ≤ ts'.cells.length

lemma Unmoved.refl (a : Addr) (ts : Timestamps N) : Unmoved a ts ts := ⟨rfl, rfl, le_rfl⟩

lemma Unmoved.recorded {a : Addr} {ts ts' : Timestamps N} (h : Unmoved a ts ts') {passes : List ℕ}
    (hr : Recorded a ts passes) : Recorded a ts' passes := by
  rw [Recorded, h.get?]
  exact hr

lemma Unmoved.knows {a : Addr} {limit : IpRateLimit} {ts ts' : Timestamps N} (h : Unmoved a ts ts')
    {passes : List ℕ} {pt : Point} (hk : pt.Knows a limit ts passes) : pt.Knows a limit ts' passes := by
  cases pt with
  | timestampLoad now stats l q =>
    obtain ⟨hl, hq, hr, ht⟩ := hk
    exact ⟨hl, h.lookup.trans hq, h.recorded hr, h.get? ▸ ht⟩
  | timestampCreate now stats => exact ⟨h.lookup.trans hk.1, hk.2⟩
  | timestampStore now stats q => exact ⟨h.lookup.trans hk.1, h.get? ▸ hk.2.1, hk.2.2⟩
  | _ => exact hk

lemma keeps_of_le {a : Addr} {ts ts' : Timestamps N} (hc : ts.cells.length ≤ ts'.cells.length)
    (hl : ∀ q < ts.cells.length, ts.lookup a ≠ some q → ts'.lookup a ≠ some q) (pt : Point)
    (hk : pt.Keeps a ts) : pt.Keeps a ts' := by
  cases pt with
  | timestampLoad now stats l q => exact ⟨hk.1.trans_le hc, hl q hk.1 hk.2⟩
  | timestampStore now stats q => exact ⟨hk.1.trans_le hc, hl q hk.1 hk.2⟩
  | _ => exact hk

lemma Unmoved.keeps {a : Addr} {ts ts' : Timestamps N} (h : Unmoved a ts ts') {pt : Point}
    (hk : pt.Keeps a ts) : pt.Keeps a ts' :=
  keeps_of_le h.cells (fun _ _ hq => h.lookup ▸ hq) pt hk

lemma knows_of_not_inCheck {a : Addr} {limit : IpRateLimit} {ts ts' : Timestamps N} {passes passes' : List ℕ}
    {pt : Point} (hc : ¬ pt.inCheck) (hk : pt.Knows a limit ts passes) : pt.Knows a limit ts' passes' := by
  cases pt with
  | timestampLoad now stats l q => exact absurd rfl hc
  | timestampCreate now stats => exact absurd rfl hc
  | timestampStore now stats q => exact absurd rfl hc
  | _ => exact hk

lemma unmoved_update {a b : Addr} (h : a ≠ b) (ts : Timestamps N) (t : PacketTimestamp) :
    Unmoved a ts (ts.update b t) := by
  by_cases hr : ts.Refuses b
  · rw [CellMap.update_of_refuses hr]
    exact .refl a ts
  · obtain ⟨_, _, _, hc⟩ := CellMap.update_of_not_refuses hr t
    refine ⟨?_, ?_, ?_⟩
    · rw [CellMap.lookup_update hr, if_neg h]
    · rw [CellMap.get?_update hr, if_neg h]
    · simp [hc]

lemma unmoved_modify {a : Addr} {ts : Timestamps N} {q : ℕ} (h : ts.lookup a ≠ some q)
    (g : PacketTimestamp → PacketTimestamp) : Unmoved a ts (ts.modify q g) := by
  refine ⟨rfl, ?_, ?_⟩
  · rw [CellMap.get?_modify, if_neg h]
  · simp

section Advances

variable {inp : Input} {m m' : Maps N} {f : Frame} {pt pt' : Point}

lemma advances_settings (h : Advances inp m f pt pt' m') : m'.settings = m.settings := by
  cases h <;> rfl

lemma keeps_log (a : Addr) (ts : Timestamps N) (action : XdpAction) (stats : Option ℕ) :
    (log action stats).Keeps a ts := by
  cases stats <;> trivial

lemma keeps_of_unchecked {a : Addr} {ts : Timestamps N} {x : BitVec 64 × Option ℕ} (h : pt.unchecked = some x) :
    pt.Keeps a ts := by
  cases pt with
  | timestampLoad now stats l q => cases h
  | timestampStore now stats q => cases h
  | _ => trivial

lemma advances_elsewhere {a : Addr} (hf : f.saddr ≠ a) (h : Advances inp m f pt pt' m')
    (hk : pt.Keeps a m.ipTimestamps) :
    Unmoved a m.ipTimestamps m'.ipTimestamps ∧ pt'.Keeps a m'.ipTimestamps := by
  cases h with
  | onward _ hp' => exact ⟨.refl a _, keeps_of_unchecked hp'⟩
  | decided _ action => exact ⟨.refl a _, keeps_log a _ action _⟩
  | timestampFound now stats limit hl =>
    exact ⟨.refl a _, m.ipTimestamps.bounded _ _ hl, fun ha => hf (m.ipTimestamps.separate _ _ _ hl ha)⟩
  | timestampCreate now stats => exact ⟨unmoved_update (Ne.symm hf) _ _, keeps_log a _ .pass stats⟩
  | tooSoon now stats limit p => exact ⟨.refl a _, keeps_log a _ .drop stats⟩
  | inTime now stats limit p => exact ⟨.refl a _, hk⟩
  | timestampStore now stats p => exact ⟨unmoved_modify hk.2 _, keeps_log a _ .pass stats⟩
  | _ => exact ⟨.refl a _, trivial⟩

end Advances

lemma guarded_elsewhere {a : Addr} {limit : IpRateLimit} {p : Pool n N} (h : Guarded a limit p) {i : Fin n}
    (hi : (p.threads i).frame.saddr ≠ a) {inp : Input} {pt : Point} {m : Maps N}
    (hm : Advances inp p.maps (p.threads i).frame (p.threads i).point pt m) : Guarded a limit (p.move i pt m) := by
  obtain ⟨hu, hk⟩ := advances_elsewhere hi hm (h.others i hi)
  have hl : (p.move i pt m).passesOf a = p.passesOf a := by
    rw [passesOf_move, if_neg hi, List.append_nil]
  have hin (j : Fin n) : InCheck a ((p.move i pt m).threads j) → InCheck a (p.threads j) ∧ j ≠ i := by
    by_cases hj : j = i
    · subst j
      rw [Pool.move_self]
      exact fun hc => absurd hc.1 hi
    · rw [Pool.move_of_ne p hj]
      exact fun hc => ⟨hc, hj⟩
  constructor
  case inForce => exact (advances_settings hm).symm ▸ h.inForce
  case alone => exact fun j k hj hk => h.alone j k (hin j hj).1 (hin k hk).1
  case spaced => exact hl.symm ▸ h.spaced
  case own =>
    rw [hl]
    apply Pool.forall_move (P := fun t => t.frame.saddr = a → t.point.Knows a limit m.ipTimestamps (p.passesOf a))
    · exact fun ha => absurd ha hi
    · exact fun j _ ha => hu.knows (h.own j ha)
  case others =>
    apply Pool.forall_move (P := fun t => t.frame.saddr ≠ a → t.point.Keeps a m.ipTimestamps)
    · exact fun _ => hk
    · exact fun j _ ha => hu.keeps (h.others j ha)
  case recorded =>
    intro hn
    rw [hl]
    apply hu.recorded
    apply h.recorded
    intro j hj
    by_cases hji : j = i
    · subst j
      exact hi hj.1
    · have hnj := hn j
      rw [Pool.move_of_ne p hji] at hnj
      exact hnj hj

lemma guarded_idle {a : Addr} {limit : IpRateLimit} {p : Pool n N} (h : Guarded a limit p) {i : Fin n} {pt : Point}
    {m : Maps N} (hset : m.settings = p.maps.settings) (hts : m.ipTimestamps = p.maps.ipTimestamps)
    (hc : ¬ (p.threads i).point.inCheck) (hc' : ¬ pt.inCheck) (ht : pt.passTime? = none)
    (hk : pt.Knows a limit p.maps.ipTimestamps (p.passesOf a)) (hkeep : pt.Keeps a p.maps.ipTimestamps) :
    Guarded a limit (p.move i pt m) := by
  have hl : (p.move i pt m).passesOf a = p.passesOf a := by
    rw [passesOf_move, ht]
    simp
  have hm : (p.move i pt m).maps = m := rfl
  have hin (j : Fin n) : InCheck a ((p.move i pt m).threads j) ↔ InCheck a (p.threads j) := by
    by_cases hj : j = i
    · subst j
      rw [Pool.move_self]
      exact ⟨fun hx => absurd hx.2 hc', fun hx => absurd hx.2 hc⟩
    · rw [Pool.move_of_ne p hj]
  constructor
  case inForce => exact hset.symm ▸ h.inForce
  case alone => exact fun j k hj hk => h.alone j k ((hin j).mp hj) ((hin k).mp hk)
  case spaced => exact hl.symm ▸ h.spaced
  case own =>
    rw [hl, hm, hts]
    apply Pool.forall_move (P := fun t => t.frame.saddr = a →
      t.point.Knows a limit p.maps.ipTimestamps (p.passesOf a))
    · exact fun _ => hk
    · exact fun j _ => h.own j
  case others =>
    rw [hm, hts]
    apply Pool.forall_move (P := fun t => t.frame.saddr ≠ a → t.point.Keeps a p.maps.ipTimestamps)
    · exact fun _ => hkeep
    · exact fun j _ => h.others j
  case recorded =>
    intro hn
    rw [hl, hm, hts]
    exact h.recorded (fun j hj => hn j ((hin j).mpr hj))

lemma guarded_check {a : Addr} {limit : IpRateLimit} {p : Pool n N} (h : Guarded a limit p) {i : Fin n}
    (hi : (p.threads i).frame.saddr = a) (halone : ∀ j, j ≠ i → ¬ InCheck a (p.threads j)) {pt : Point}
    {m : Maps N} (hset : m.settings = p.maps.settings) {passes : List ℕ}
    (hl : p.passesOf a ++ pt.passTime?.toList.map BitVec.toNat = passes)
    (hs : passes.Pairwise (Apart limit.packetIntervalNs.toNat)) (hk : pt.Knows a limit m.ipTimestamps passes)
    (hkeep : ∀ pt : Point, pt.Keeps a p.maps.ipTimestamps → pt.Keeps a m.ipTimestamps)
    (hr : ¬ pt.inCheck → Recorded a m.ipTimestamps passes) : Guarded a limit (p.move i pt m) := by
  have hl' : (p.move i pt m).passesOf a = passes := by rw [passesOf_move, if_pos hi, hl]
  have hm : (p.move i pt m).maps = m := rfl
  have hin (j : Fin n) (hj : InCheck a ((p.move i pt m).threads j)) : j = i := by
    by_contra hne
    rw [Pool.move_of_ne p hne] at hj
    exact halone j hne hj
  constructor
  case inForce => exact hset.symm ▸ h.inForce
  case alone => exact fun j k hj hk => (hin j hj).trans (hin k hk).symm
  case spaced => exact hl'.symm ▸ hs
  case own =>
    rw [hl', hm]
    apply Pool.forall_move (P := fun t => t.frame.saddr = a → t.point.Knows a limit m.ipTimestamps passes)
    · exact fun _ => hk
    · exact fun j hj ha => knows_of_not_inCheck (fun hc => halone j hj ⟨ha, hc⟩) (h.own j ha)
  case others =>
    rw [hm]
    apply Pool.forall_move (P := fun t => t.frame.saddr ≠ a → t.point.Keeps a m.ipTimestamps)
    · exact fun ha => absurd hi ha
    · exact fun j _ ha => hkeep _ (h.others j ha)
  case recorded =>
    intro hn
    rw [hl', hm]
    have hni := hn i
    rw [Pool.move_self] at hni
    exact hr (fun hc => hni ⟨hi, hc⟩)

lemma log_inCheck (action : XdpAction) (stats : Option ℕ) : ¬ (log action stats).inCheck := by
  cases stats <;> simp [log, inCheck]

lemma log_passTime? (action : XdpAction) (stats : Option ℕ) : (log action stats).passTime? = none := by
  cases stats <;> rfl

lemma knows_log (a : Addr) (limit : IpRateLimit) (ts : Timestamps N) (passes : List ℕ) (action : XdpAction)
    (stats : Option ℕ) : (log action stats).Knows a limit ts passes := by
  cases stats <;> trivial

lemma idle_of_unchecked {pt : Point} {x : BitVec 64 × Option ℕ} (h : pt.unchecked = some x) :
    ¬ pt.inCheck ∧ pt.passTime? = none := by
  cases pt <;> simp_all [unchecked, inCheck, passTime?]

lemma knows_of_unchecked {a : Addr} {limit : IpRateLimit} {ts : Timestamps N} {passes : List ℕ} {pt : Point}
    {x : BitVec 64 × Option ℕ} (h : pt.unchecked = some x) : pt.Knows a limit ts passes := by
  cases pt with
  | timestampLookup now stats l => cases h
  | timestampLoad now stats l q => cases h
  | timestampCreate now stats => cases h
  | timestampStore now stats q => cases h
  | _ => trivial

lemma guarded_own {a : Addr} {limit : IpRateLimit} {p : Pool n N} (h : Guarded a limit p) {i : Fin n}
    (hi : (p.threads i).frame.saddr = a) {inp : Input} (hx : Exclusive a p (.run i inp)) {pt : Point} {m : Maps N}
    (hm : Advances inp p.maps (p.threads i).frame (p.threads i).point pt m) : Guarded a limit (p.move i pt m) := by
  have hset := advances_settings hm
  have hk := h.own i hi
  have hx := hx hi
  have hsolo (hc : (p.threads i).point.inCheck) (j : Fin n) (hj : j ≠ i) : ¬ InCheck a (p.threads j) :=
    fun hcj => hj (h.alone j i hcj ⟨hi, hc⟩)
  generalize hpt : (p.threads i).point = pt₀ at hm hk hx hsolo
  subst hi
  cases hm with
  | onward hp hp' =>
    obtain ⟨hc, ht⟩ := idle_of_unchecked hp'
    exact guarded_idle h hset rfl (hpt ▸ (idle_of_unchecked hp).1) hc ht (knows_of_unchecked hp')
      (keeps_of_unchecked hp')
  | decided hp action =>
    exact guarded_idle h hset rfl (hpt ▸ (idle_of_unchecked hp).1) (log_inCheck _ _) (log_passTime? _ _)
      (knows_log _ _ _ _ _ _) (keeps_log _ _ _ _)
  | @limited now stats l hl =>
    have he : l = limit := by
      have hf := h.inForce
      rw [Settings.limitInForce] at hf
      split_ifs at hf
      exact Option.some.inj (hl.symm.trans hf)
    exact guarded_idle h hset rfl (by simp [hpt, inCheck]) (by simp [inCheck]) rfl he trivial
  | @timestampFound now stats l q hl =>
    obtain ⟨hfree, hle⟩ := hx.1 now rfl
    obtain ⟨⟨t⟩, ht⟩ : ∃ t, p.maps.ipTimestamps.get? (p.threads i).frame.saddr = some t :=
      ⟨_, (CellMap.get?_of_lookup hl).trans (List.getElem?_eq_getElem (p.maps.ipTimestamps.bounded _ _ hl))⟩
    have hr := h.recorded hfree
    refine guarded_check h rfl (fun j _ => hfree j) hset (List.append_nil _) h.spaced ?_ (fun _ => id) ?_
    · exact ⟨hk, hl, hr, t, ht, hle _ ht⟩
    · exact fun hc => absurd rfl hc
  | @timestampMissing now stats l hl =>
    obtain ⟨hfree, _⟩ := hx.1 now rfl
    have hn := (CellMap.get?_eq_none _ _).mpr hl
    have hempty : p.passesOf (p.threads i).frame.saddr = [] := by
      apply List.eq_nil_iff_forall_not_mem.mpr
      intro x hx
      obtain ⟨t, ht, _⟩ := h.recorded hfree x hx
      simp [hn] at ht
    refine guarded_check h rfl (fun j _ => hfree j) hset rfl ?_ ?_ (fun _ => id) ?_
    · rw [hempty]
      exact List.pairwise_singleton _ _
    · rw [hempty]
      exact ⟨hl, by simp [passTime?]⟩
    · exact fun hc => absurd rfl hc
  | timestampCreate now stats =>
    have hroom := hx.2 rfl
    have hg := CellMap.get?_update hroom ⟨now⟩ (p.threads i).frame.saddr
    have hu := CellMap.lookup_update hroom ⟨now⟩ (p.threads i).frame.saddr
    obtain ⟨_, _, _, hcells⟩ := CellMap.update_of_not_refuses hroom ⟨now⟩
    rw [if_pos rfl] at hg hu
    refine guarded_check h rfl (hsolo rfl) hset (by rw [log_passTime?]; exact List.append_nil _) h.spaced
      (knows_log _ _ _ _ _ _) (keeps_of_le ?_ ?_) (fun _ x hx => ⟨now, hg, hk.2 x hx⟩)
    · simp [hcells]
    · intro q hq _ heq
      have he : p.maps.ipTimestamps.cells.length = q := Option.some.inj (hu.symm.trans heq)
      omega
  | tooSoon now stats l q =>
    obtain ⟨_, _, hr, _⟩ := hk
    refine guarded_check h rfl (hsolo rfl) hset ?_ h.spaced (knows_log _ _ _ _ _ _) (fun _ => id) (fun _ => hr)
    rw [log_passTime?]
    exact List.append_nil _
  | @inTime now stats l q hd =>
    obtain ⟨rfl, hl, hr, t, ht, hle⟩ := hk
    have hcell := (CellMap.get?_of_lookup hl).symm.trans ht
    rw [hcell, Option.getD_some, sub_lt_iff_of_le hle] at hd
    have hbound (x : ℕ) (hx : x ∈ p.passesOf (p.threads i).frame.saddr) :
        Apart l.packetIntervalNs.toNat x now.toNat := by
      obtain ⟨t', ht', hxt⟩ := hr x hx
      obtain rfl : t = t' := by simpa using ht.symm.trans ht'
      rw [Apart]
      omega
    refine guarded_check h rfl (hsolo rfl) hset rfl ?_ ?_ (fun _ => id) ?_
    · refine List.pairwise_append.mpr ⟨h.spaced, List.pairwise_singleton _ _, ?_⟩
      intro x hx y hy
      obtain rfl : y = now.toNat := by simpa [passTime?] using hy
      exact hbound x hx
    · refine ⟨hl, ⟨t, ht, hle⟩, ?_⟩
      intro x hx
      rcases List.mem_append.mp hx with hx | hx
      · exact (Nat.le_add_right _ _).trans (hbound x hx)
      · have he : x = now.toNat := by simpa [passTime?] using hx
        exact he.le
    · exact fun hc => absurd rfl hc
  | timestampStore now stats q =>
    obtain ⟨hl, ⟨t, ht, _⟩, hb⟩ := hk
    have hg := CellMap.get?_modify_of_lookup hl (fun _ => ⟨now⟩) (p.threads i).frame.saddr
    rw [if_pos rfl, ht] at hg
    refine guarded_check h rfl (hsolo rfl) hset (by rw [log_passTime?]; exact List.append_nil _) h.spaced
      (knows_log _ _ _ _ _ _) (keeps_of_le ?_ (fun _ _ => id)) (fun _ x hx => ⟨now, hg, hb x hx⟩)
    simp
  | _ => exact guarded_idle h hset rfl (by simp [hpt, inCheck]) (by simp [inCheck]) rfl trivial trivial

lemma guarded_step {a : Addr} {limit : IpRateLimit} {p p' : Pool n N} {tick : Tick n} (h : Guarded a limit p)
    (hx : Exclusive a p tick) (hs : p.step tick = some p') : Guarded a limit p' := by
  cases tick with
  | run i inp =>
    obtain ⟨pt, m, hm, rfl⟩ := Pool.step_run hs
    by_cases hi : (p.threads i).frame.saddr = a
    · exact guarded_own h hi hx hm
    · exact guarded_elsewhere h hi hm
  | consume k =>
    cases hs
    exact ⟨h.inForce, h.alone, h.spaced, h.own, h.others, h.recorded⟩

def NotOlder (a : Addr) (ts ts' : Timestamps N) : Prop :=
  ∀ t ∈ ts.get? a, ∃ t' ∈ ts'.get? a, t.lastTimestamp ≤ t'.lastTimestamp

lemma NotOlder.refl (a : Addr) (ts : Timestamps N) : NotOlder a ts ts := fun t ht => ⟨t, ht, BitVec.le_refl _⟩

lemma NotOlder.trans {a : Addr} {ts ts' ts'' : Timestamps N} (h : NotOlder a ts ts') (h' : NotOlder a ts' ts'') :
    NotOlder a ts ts'' := by
  intro t ht
  obtain ⟨t', ht', hle⟩ := h t ht
  obtain ⟨t'', ht'', hle'⟩ := h' t' ht'
  exact ⟨t'', ht'', BitVec.le_trans hle hle'⟩

lemma notOlder_of_get? {a : Addr} {ts ts' : Timestamps N} (h : ts'.get? a = ts.get? a) : NotOlder a ts ts' :=
  fun t ht => ⟨t, h.trans ht, BitVec.le_refl _⟩

lemma notOlder_step {a : Addr} {limit : IpRateLimit} {p p' : Pool n N} {tick : Tick n} (h : Guarded a limit p)
    (hs : p.step tick = some p') : NotOlder a p.maps.ipTimestamps p'.maps.ipTimestamps := by
  cases tick with
  | consume k =>
    cases hs
    exact .refl a _
  | run i inp =>
    obtain ⟨pt, m, hm, rfl⟩ := Pool.step_run hs
    by_cases hi : (p.threads i).frame.saddr = a
    · have hk := h.own i hi
      generalize (p.threads i).point = pt₀ at hm hk
      cases hm with
      | timestampCreate now stats =>
        have hn := (CellMap.get?_eq_none _ _).mpr hk.1
        intro t ht
        simp [hn] at ht
      | timestampStore now stats q =>
        obtain ⟨hl, ⟨t, ht, hle⟩, _⟩ := hk
        have hg := CellMap.get?_modify_of_lookup hl (fun _ => ⟨now⟩) a
        rw [if_pos rfl, ht] at hg
        intro t' ht'
        obtain rfl : ⟨t⟩ = t' := by simpa using ht.symm.trans ht'
        exact ⟨⟨now⟩, hg, hle⟩
      | _ => exact .refl a _
    · exact notOlder_of_get? (advances_elsewhere hi hm (h.others i hi)).1.get?

theorem passes_apart_of_exclusive {a : Addr} {limit : IpRateLimit} {m : Maps N}
    (hl : m.settings.limitInForce a = some limit) (frames : Fin n → Frame) {ticks more : List (Tick n)}
    {p q : Pool n N} (hp : runs Pool.step (.start frames m) ticks = some p) (hq : runs Pool.step p more = some q)
    (hx : Along Pool.step (Exclusive a) (.start frames m) (ticks ++ more)) :
    (q.passesOf a).Pairwise (Apart limit.packetIntervalNs.toNat) ∧
      ∀ t ∈ p.maps.ipTimestamps.get? a, ∃ t' ∈ q.maps.ipTimestamps.get? a, t.lastTimestamp ≤ t'.lastTimestamp := by
  obtain ⟨hx, hx'⟩ := along_append.mp hx
  have hg : Guarded a limit p := invariant_along (fun _ _ _ => guarded_step) (guarded_start hl frames) hx hp
  have hi : Guarded a limit q ∧ NotOlder a p.maps.ipTimestamps q.maps.ipTimestamps := by
    refine invariant_along ?_ ⟨hg, .refl a _⟩ (hx' p hp) hq
      (I := fun u => Guarded a limit u ∧ NotOlder a p.maps.ipTimestamps u.maps.ipTimestamps)
    rintro u tick v ⟨hu, ho⟩ hc hs
    exact ⟨guarded_step hu hc hs, ho.trans (notOlder_step hu hs)⟩
  exact ⟨hi.1.spaced, hi.2⟩

def twoPackets (a : Addr) : Pool 2 MAX_ENTRIES :=
  .start (fun _ => .source a) (limiting (N := 1048575) a ⟨1#32, 1000000000#64⟩)

theorem passes_apart_in_turn :
    ∃ p q : Pool 2 MAX_ENTRIES,
      runs Pool.step (twoPackets 0x0A000001#32)
        (.replicate 9 (.atTime 1 1000000007) ++ .replicate 9 (.atTime 0 5)) = some p ∧
      runs Pool.step p (.replicate 3 (.atTime 1 0)) = some q ∧
      q.passesOf 0x0A000001#32 = [5, 1000000007] ∧
      (q.passesOf 0x0A000001#32).Pairwise (Apart 1000000000) ∧
      ∀ t ∈ p.maps.ipTimestamps.get? 0x0A000001#32,
        ∃ t' ∈ q.maps.ipTimestamps.get? 0x0A000001#32, t.lastTimestamp ≤ t'.lastTimestamp := by
  have hl : (twoPackets 0x0A000001#32).maps.settings.limitInForce 0x0A000001#32 =
      some ⟨1#32, 1000000000#64⟩ := by decide +kernel
  have hp := runs_reached Pool.step (twoPackets 0x0A000001#32)
    (.replicate 9 (.atTime 1 1000000007) ++ .replicate 9 (.atTime 0 5)) (by decide +kernel)
  have hq := runs_reached Pool.step (reached Pool.step (twoPackets 0x0A000001#32)
    (.replicate 9 (.atTime 1 1000000007) ++ .replicate 9 (.atTime 0 5))) (.replicate 3 (.atTime 1 0))
    (by decide +kernel)
  exact ⟨_, _, hp, hq, by decide +kernel, passes_apart_of_exclusive hl _ hp hq (by decide +kernel)⟩

theorem first_packets_race :
    ¬ (∀ (m : Maps MAX_ENTRIES) (limit : IpRateLimit) (frames : Fin 2 → Frame) (ticks : List (Tick 2))
        (q : Pool 2 MAX_ENTRIES), m.settings.limitInForce 0x0A000001#32 = some limit →
        runs Pool.step (.start frames m) ticks = some q →
        (q.passesOf 0x0A000001#32).Pairwise fun x y =>
          Apart limit.packetIntervalNs.toNat x y ∨ Apart limit.packetIntervalNs.toNat y x) ∧
    ¬ (∀ (m : Maps MAX_ENTRIES) (limit : IpRateLimit) (frames : Fin 2 → Frame) (ticks more : List (Tick 2))
        (p q : Pool 2 MAX_ENTRIES), m.settings.limitInForce 0x0A000001#32 = some limit →
        runs Pool.step (.start frames m) ticks = some p → runs Pool.step p more = some q →
        ∀ t ∈ p.maps.ipTimestamps.get? 0x0A000001#32,
          ∃ t' ∈ q.maps.ipTimestamps.get? 0x0A000001#32, t.lastTimestamp ≤ t'.lastTimestamp) := by
  have hl : (twoPackets 0x0A000001#32).maps.settings.limitInForce 0x0A000001#32 =
      some ⟨1#32, 1000000000#64⟩ := by decide +kernel
  have hp := runs_reached Pool.step (twoPackets 0x0A000001#32)
    (.replicate 9 (.atTime 0 5) ++ .replicate 7 (.atTime 1 6) ++ [.atTime 0 0, .atTime 1 0, .atTime 1 0])
    (by decide +kernel)
  have hq := runs_reached Pool.step (reached Pool.step (twoPackets 0x0A000001#32)
    (.replicate 9 (.atTime 0 5) ++ .replicate 7 (.atTime 1 6) ++ [.atTime 0 0, .atTime 1 0, .atTime 1 0]))
    [.atTime 0 0] (by decide +kernel)
  constructor
  · intro h
    have hs := h _ _ _ _ _ hl hp
    revert hs
    decide +kernel
  · intro h
    have hs := h _ _ _ _ _ _ _ hl hp hq ⟨6#64⟩ (by decide +kernel)
    revert hs
    decide +kernel

end PacketFilter.Kernel
