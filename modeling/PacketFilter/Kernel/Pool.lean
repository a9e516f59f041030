import PacketFilter.Kernel.Points
import PacketFilter.Library.Machines

/-! Calls of the filter on several processors, one helper call of one of them after another. -/

namespace PacketFilter.Kernel

open Library Library.Machines Point

variable {n N : ℕ}

structure Thread where
  frame : Frame
  point : Point

structure Pool (n N : ℕ) where
  threads : Fin n → Thread
  maps : Maps N
  passes : List (Addr × BitVec 64)

inductive Tick (n : ℕ) where
  | run (i : Fin n) (inp : Input)
  | consume (k : ℕ)

def Tick.atTime (i : Fin n) (t : ℕ) : Tick n := .run i ⟨BitVec.ofNat 64 t, false⟩

def Point.passTime? : Point → Option (BitVec 64)
  | .timestampCreate now _ | .timestampStore now _ _ => some now
  | _ => none

namespace Pool

def start (frames : Fin n → Frame) (m : Maps N) : Pool n N := ⟨fun i => ⟨frames i, .start⟩, m, []⟩

def move (p : Pool n N) (i : Fin n) (pt : Point) (m : Maps N) : Pool n N where
  threads := Function.update p.threads i { p.threads i with point := pt }
  maps := m
  passes := p.passes ++ (pt.passTime?.map ((p.threads i).frame.saddr, ·)).toList

def step (p : Pool n N) : Tick n → Option (Pool n N)
  | .run i inp =>
      (advance inp p.maps (p.threads i).frame (p.threads i).point).map fun r => p.move i r.1 r.2
  | .consume k => some { p with maps := { p.maps with packetRingbuf := p.maps.packetRingbuf.consume k } }

lemma step_run {p p' : Pool n N} {i : Fin n} {inp : Input} (h : p.step (.run i inp) = some p') :
    ∃ pt m, Advances inp p.maps (p.threads i).frame (p.threads i).point pt m ∧ p' = p.move i pt m := by
  obtain ⟨⟨pt, m⟩, hr, rfl⟩ := Option.map_eq_some_iff.mp h
  exact ⟨pt, m, advances_of_advance hr, rfl⟩

@[simp] lemma move_self (p : Pool n N) (i : Fin n) (pt : Point) (m : Maps N) :
    (p.move i pt m).threads i = ⟨(p.threads i).frame, pt⟩ := Function.update_self ..

lemma move_of_ne (p : Pool n N) {i j : Fin n} (h : j ≠ i) (pt : Point) (m : Maps N) :
    (p.move i pt m).threads j = p.threads j := Function.update_of_ne h ..

lemma forall_move {p : Pool n N} {i : Fin n} {pt : Point} {m : Maps N} {P : Thread → Prop}
    (hi : P ⟨(p.threads i).frame, pt⟩) (hj : ∀ j, j ≠ i → P (p.threads j)) :
    ∀ j, P ((p.move i pt m).threads j) := by
  intro j
  by_cases h : j = i
  · subst j
    rwa [move_self]
  · rw [move_of_ne p h]
    exact hj j h

end Pool

end PacketFilter.Kernel
