import PacketFilter.Kernel.Verdicts

/-! Sequential runs: frames one after another, with the settings and the log listener moving in between. -/

namespace PacketFilter.Kernel

open Library Library.Programs Prog

variable {N : ℕ}

inductive Event (N : ℕ) where
  | packet (f : Frame) (inp : Input)
  | configure (s : Settings N)
  | consume (n : ℕ)

def Event.time? : Event N → Option (BitVec 64)
  | .packet _ inp => some inp.now
  | _ => none

def step (m : Maps N) : Event N → Maps N
  | .packet f inp => (run (exec inp) (xdpFilter f) m).2
  | .configure s => { m with settings := s }
  | .consume n => { m with packetRingbuf := m.packetRingbuf.consume n }

def verdict? (m : Maps N) : Event N → Option XdpAction
  | .packet f inp => some (run (exec inp) (xdpFilter f) m).1
  | _ => none

def runAll (m : Maps N) (es : List (Event N)) : Maps N := es.foldl step m

def moments : Maps N → List (Event N) → List (Maps N × Event N)
  | _, [] => []
  | m, e :: es => (m, e) :: moments (step m e) es

@[simp] lemma runAll_nil (m : Maps N) : runAll m [] = m := rfl

@[simp] lemma runAll_cons (m : Maps N) (e : Event N) (es : List (Event N)) :
    runAll m (e :: es) = runAll (step m e) es := rfl

lemma runAll_append (m : Maps N) (es fs : List (Event N)) :
    runAll m (es ++ fs) = runAll (runAll m es) fs := List.foldl_append

def Checked (m : Maps N) (a : Addr) : Event N → Prop
  | .packet f inp => f.IsIpv4 ∧ m.HasSlot inp ∧ f.saddr = a
  | _ => False

instance (m : Maps N) (a : Addr) : (e : Event N) → Decidable (Checked m a e)
  | .packet _ _ => inferInstanceAs (Decidable (_ ∧ _ ∧ _))
  | .configure _ => inferInstanceAs (Decidable False)
  | .consume _ => inferInstanceAs (Decidable False)

lemma step_packet (m : Maps N) (f : Frame) (inp : Input) :
    step m (.packet f inp) = if f.IsIpv4 ∧ m.HasSlot inp then m.filtered f inp.now else m := by
  rw [step, run_xdpFilter]
  split_ifs <;> rfl

lemma verdict?_packet (m : Maps N) (f : Frame) (inp : Input) :
    verdict? m (.packet f inp) =
      some (if f.IsIpv4 ∧ m.HasSlot inp then m.verdict inp.now f.saddr else .pass) := by
  rw [verdict?, run_xdpFilter]
  split_ifs <;> rfl

/-- A packet from `a` passes the rate-limit check under the limit that is then in force. -/
def PassesLimit (m : Maps N) (a : Addr) (e : Event N) : Prop :=
  Checked m a e ∧ (m.settings.limitInForce a).isSome ∧ verdict? m e = some .pass

instance (m : Maps N) (a : Addr) (e : Event N) : Decidable (PassesLimit m a e) :=
  inferInstanceAs (Decidable (_ ∧ _ ∧ _))

lemma get?_stamped (m : Maps N) (now : BitVec 64) (a b : Addr) :
    (m.stamped now a).get? b =
      if b = a ∧ (m.settings.limitInForce a).isSome ∧ ¬ m.ipTimestamps.Refuses a then some ⟨now⟩
      else m.ipTimestamps.get? b := by
  unfold Maps.stamped
  split_ifs with h1 h2 h2
  · rw [CellMap.get?_put, if_pos ⟨h2.1, h2.2.2⟩]
  · rw [CellMap.get?_put, if_neg (fun h => h2 ⟨h.1, h1, h.2⟩)]
  · exact absurd h2.2.1 h1
  · rfl

lemma full_stamped {m : Maps N} (h : m.ipTimestamps.Full) (now : BitVec 64) (a : Addr) :
    (m.stamped now a).Full := by
  unfold Maps.stamped
  split
  · exact CellMap.full_put h a _
  · exact h

lemma get?_timestamps_step (m : Maps N) (e : Event N) (a : Addr) :
    (step m e).ipTimestamps.get? a =
      if PassesLimit m a e ∧ ¬ m.ipTimestamps.Refuses a then e.time?.map PacketTimestamp.mk
      else m.ipTimestamps.get? a := by
  cases e with
  | configure s => simp [step, PassesLimit, Checked]
  | consume n => simp [step, PassesLimit, Checked]
  | packet f inp =>
    rw [step_packet]
    by_cases hc : f.IsIpv4 ∧ m.HasSlot inp
    · have hv := verdict?_packet m f inp
      rw [if_pos hc] at hv ⊢
      by_cases hd : m.Drops inp.now f.saddr
      · have hp : ¬ PassesLimit m a (.packet f inp) := by
          rintro ⟨_, _, h⟩
          simp [hv, Maps.verdict, hd] at h
        simp [Maps.filtered, hd, hp]
      · have hp : verdict? m (.packet f inp) = some .pass := by rw [hv, Maps.verdict, if_neg hd]
        simp only [Maps.filtered, hd, if_false, get?_stamped]
        by_cases ha : a = f.saddr
        · subst a
          simp [PassesLimit, Checked, hc, hp, Event.time?]
        · simp [PassesLimit, Checked, ha, Ne.symm ha]
    · have hp : ¬ PassesLimit m a (.packet f inp) := fun h => hc ⟨h.1.1, h.1.2.1⟩
      simp [hc, hp]

lemma full_timestamps_step {m : Maps N} (h : m.ipTimestamps.Full) (e : Event N) :
    (step m e).ipTimestamps.Full := by
  cases e with
  | configure s => exact h
  | consume n => exact h
  | packet f inp =>
    rw [step_packet]
    split_ifs
    · simp only [Maps.filtered]
      split_ifs
      · exact h
      · exact full_stamped h _ _
    · exact h

lemma settings_step (m : Maps N) (e : Event N) :
    (step m e).settings = match e with
      | .configure s => s
      | _ => m.settings := by
  cases e with
  | packet f inp =>
    rw [step_packet]
    split_ifs <;> rfl
  | _ => rfl

lemma settings_packet (m : Maps N) (f : Frame) (inp : Input) : (step m (.packet f inp)).settings = m.settings :=
  settings_step m (.packet f inp)

@[simp] lemma settings_consume (m : Maps N) (n : ℕ) : (step m (.consume n)).settings = m.settings := rfl

@[simp] lemma ipTimestamps_consume (m : Maps N) (n : ℕ) :
    (step m (.consume n)).ipTimestamps = m.ipTimestamps := rfl

structure Ringbuf.Drained (r : Ringbuf) : Prop where
  reserved : r.reserved = r.consumed
  submitted : r.submitted.length = r.consumed

lemma Ringbuf.Drained.hasRoom {r : Ringbuf} (h : r.Drained) : r.HasRoom := by
  simp [Ringbuf.HasRoom, h.reserved, RECORD_SIZE, RINGBUF_SIZE]

lemma drained_step {m : Maps N} (h : m.packetRingbuf.Drained) (f : Frame) (inp : Input) :
    (step (step m (.packet f inp)) (.consume 1)).packetRingbuf.Drained := by
  have hr : (step (step m (.packet f inp)) (.consume 1)).packetRingbuf =
      (step m (.packet f inp)).packetRingbuf.consume 1 := rfl
  rw [hr, step_packet]
  split_ifs
  · constructor <;>
      simp [Maps.filtered, Ringbuf.consume, Ringbuf.submit, Ringbuf.reserve, h.reserved, h.submitted]
  · constructor <;> simp [Ringbuf.consume, h.reserved, h.submitted]

end PacketFilter.Kernel
