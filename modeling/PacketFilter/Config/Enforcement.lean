import PacketFilter.Config.Policy
import PacketFilter.Kernel.Limiter

/-! Limits that come and go by event lines, and the timestamps the filter keeps for them. -/

namespace PacketFilter.Config

open Library Library.Programs Library.Scanning Kernel Prog

variable {N : ℕ}

namespace System

variable (faults : Faults N)

def event (s : System N) : Happening → Event N
  | .line text => .configure (s.step faults (.line text)).maps.settings
  | .packet f inp => .packet f inp
  | .consume n => .consume n

def events : System N → List Happening → List (Event N)
  | _, [] => []
  | s, e :: es => s.event faults e :: events (s.step faults e) es

lemma maps_step (s : System N) (e : Happening) :
    (s.step faults e).maps = Kernel.step s.maps (s.event faults e) := by
  cases e <;> rfl

lemma maps_runAll (s : System N) (es : List Happening) :
    (s.runAll faults es).maps = Kernel.runAll s.maps (s.events faults es) := by
  induction es generalizing s with
  | nil => rfl
  | cons e es ih =>
    rw [events, Kernel.runAll_cons, ← maps_step]
    exact ih (s.step faults e)

end System

def Happening.time? : Happening → Option (BitVec 64)
  | .packet _ inp => some inp.now
  | _ => none

def clock (es : List Happening) : List ℕ := (es.filterMap Happening.time?).map BitVec.toNat

lemma times_events (faults : Faults N) (s : System N) (es : List Happening) :
    times (s.events faults es) = clock es := by
  induction es generalizing s with
  | nil => rfl
  | cons e es ih =>
    have hh := ih (s.step faults e)
    cases e with
    | line text => exact hh
    | packet f inp => exact congrArg (inp.now.toNat :: ·) hh
    | consume n => exact hh

theorem limit_enforced_iff_recorded (faults : Faults N) (s : System N) (f₁ f₂ : Frame) (inp₁ inp₂ : Input)
    (between : List Happening) (a : Addr) (limit : IpRateLimit)
    (hpass : PassesLimit s.maps a (.packet f₁ inp₁))
    (hclock : (clock (.packet f₁ inp₁ :: between ++ [.packet f₂ inp₂])).Pairwise (· ≤ ·))
    (hipv4 : f₂.IsIpv4) (hsource : f₂.saddr = a)
    (hslot : (s.runAll faults (.packet f₁ inp₁ :: between)).maps.HasSlot inp₂)
    (hlimit : (s.runAll faults (.packet f₁ inp₁ :: between)).maps.settings.limitInForce a = some limit)
    (hwhitelist : ¬ (s.runAll faults (.packet f₁ inp₁ :: between)).maps.settings.WhitelistDrops a)
    (hblacklist : ¬ (s.runAll faults (.packet f₁ inp₁ :: between)).maps.settings.BlacklistDrops a)
    (hsoon : inp₂.now.toNat < inp₁.now.toNat + limit.packetIntervalNs.toNat) :
    (run (exec inp₂) (xdpFilter f₂) (s.runAll faults (.packet f₁ inp₁ :: between)).maps).1 = .drop ↔
      ¬ s.maps.ipTimestamps.Refuses a := by
  subst a
  have hm := System.maps_runAll faults s (.packet f₁ inp₁ :: between)
  rw [System.events] at hm
  have hs : (inp₁.now.toNat :: times ((s.step faults (.packet f₁ inp₁)).events faults between) ++
      [inp₂.now.toNat]).Pairwise (· ≤ ·) := by
    rw [times_events]
    simpa [clock, Happening.time?] using hclock
  rw [hm] at hslot hlimit hwhitelist hblacklist ⊢
  rw [run_xdpFilter, if_pos ⟨hipv4, hslot⟩,
    ← drop_iff_of_passesLimit hpass rfl hs hlimit hwhitelist hblacklist hsoon]
  exact Maps.verdict_eq_drop _ _ _

def accepting : Faults N := fun _ _ _ => false

def staleSystem : System 1 :=
  (System.load accepting ⟨fun _ => 3⟩ ⟨none, none, some "10.0.0.2 1".toList⟩ .zeroed).runAll accepting
    [.packet (.source 0x0A000002#32) ⟨0#64, false⟩, .line "ratelimit: remove 10.0.0.2".toList,
      .line "ratelimit: add 10.0.0.1 1".toList]

theorem limit_not_enforced :
    let s := staleSystem.runAll accepting [.packet (.source 0x0A000001#32) ⟨1#64, false⟩]
    staleSystem.journal.map (fun note => note.command.isSome) = [true, true, true, true] ∧
    PassesLimit staleSystem.maps 0x0A000001#32 (.packet (.source 0x0A000001#32) ⟨1#64, false⟩) ∧
    s.maps.HasSlot ⟨2#64, false⟩ ∧
    s.maps.settings.limitInForce 0x0A000001#32 = some (rateLimitConfig 1#32) ∧
    ¬ s.maps.settings.WhitelistDrops 0x0A000001#32 ∧ ¬ s.maps.settings.BlacklistDrops 0x0A000001#32 ∧
    (2#64).toNat < (1#64).toNat + (rateLimitConfig 1#32).packetIntervalNs.toNat ∧
    (run (exec ⟨2#64, false⟩) (xdpFilter (.source 0x0A000001#32)) s.maps).1 = .pass := by
  decide +kernel

def freshSystem : System 1 :=
  System.load accepting ⟨fun _ => 3⟩ ⟨none, none, some "10.0.0.1 1".toList⟩ .zeroed

theorem limit_enforced_fresh :
    (run (exec ⟨2#64, false⟩) (xdpFilter (.source 0x0A000001#32))
      (freshSystem.runAll accepting [.packet (.source 0x0A000001#32) ⟨1#64, false⟩, .consume 1]).maps).1 = .drop :=
  (limit_enforced_iff_recorded accepting freshSystem (.source 0x0A000001#32) (.source 0x0A000001#32)
    ⟨1#64, false⟩ ⟨2#64, false⟩ [.consume 1] 0x0A000001#32 (rateLimitConfig 1#32) (by decide +kernel)
    (by decide +kernel) (by decide +kernel) (by decide +kernel) (by decide +kernel) (by decide +kernel)
    (by decide +kernel) (by decide +kernel) (by decide +kernel)).mpr (by decide +kernel)

end PacketFilter.Config
