import Mathlib.Logic.Relation
import Mathlib.Tactic

/-! Programs over a signature of atomic operations, run alone against a state. -/

namespace PacketFilter.Library.Programs

inductive Prog (Op : Type) (Res : Op → Type) (α : Type) where
  | ret (a : α)
  | call (op : Op) (next : Res op → Prog Op Res α)

namespace Prog

variable {Op : Type} {Res : Op → Type} {α β S : Type}

def bind : Prog Op Res α → (α → Prog Op Res β) → Prog Op Res β
  | ret a, f => f a
  | call op next, f => call op (fun r => (next r).bind f)

instance : Monad (Prog Op Res) where
  pure := ret
  bind := bind

def perform (op : Op) : Prog Op Res (Res op) := call op ret

@[simp] lemma pure_eq (a : α) : (pure a : Prog Op Res α) = ret a := rfl

@[simp] lemma ret_bind (a : α) (f : α → Prog Op Res β) : (ret a >>= f) = f a := rfl

@[simp] lemma call_bind (op : Op) (next : Res op → Prog Op Res α) (f : α → Prog Op Res β) :
    (call op next >>= f) = call op (fun r => next r >>= f) := rfl

@[simp] lemma perform_bind (op : Op) (f : Res op → Prog Op Res β) :
    (perform op >>= f) = call op f := rfl

lemma prog_bind_assoc {γ : Type} (p : Prog Op Res α) (f : α → Prog Op Res β) (g : β → Prog Op Res γ) :
    (p >>= f >>= g) = (p >>= fun a => f a >>= g) := by
  induction p with
  | ret a => rfl
  | call op next ih =>
    simp only [call_bind]
    congr 1
    funext r
    exact ih r

section Run

variable (exec : (op : Op) → S → Res op × S)

def run : Prog Op Res α → S → α × S
  | ret a, s => (a, s)
  | call op next, s => run (next (exec op s).1) (exec op s).2

def step : Prog Op Res α → S → Option (Prog Op Res α × S)
  | ret _, _ => none
  | call op next, s => some (next (exec op s).1, (exec op s).2)

@[simp] lemma run_ret (a : α) (s : S) : run exec (ret a : Prog Op Res α) s = (a, s) := rfl

@[simp] lemma run_call (op : Op) (next : Res op → Prog Op Res α) (s : S) :
    run exec (call op next) s = run exec (next (exec op s).1) (exec op s).2 := rfl

lemma run_bind (p : Prog Op Res α) (f : α → Prog Op Res β) (s : S) :
    run exec (p >>= f) s = run exec (f (run exec p s).1) (run exec p s).2 := by
  induction p generalizing s with
  | ret a => rfl
  | call op next ih => exact ih _ _

lemma run_invariant {I : S → Prop} (hexec : ∀ op s, I s → I (exec op s).2) (p : Prog Op Res α) {s : S} (hs : I s) :
    I (run exec p s).2 := by
  induction p generalizing s with
  | ret a => exact hs
  | call op next ih => exact ih _ (hexec op s hs)

def states : Prog Op Res α → S → List S
  | ret _, s => [s]
  | call op next, s => s :: states (next (exec op s).1) (exec op s).2

def answers : Prog Op Res α → S → List ((op : Op) × Res op)
  | ret _, _ => []
  | call op next, s => ⟨op, (exec op s).1⟩ :: answers (next (exec op s).1) (exec op s).2

lemma answers_bind (p : Prog Op Res α) (f : α → Prog Op Res β) (s : S) :
    answers exec (p >>= f) s = answers exec p s ++ answers exec (f (run exec p s).1) (run exec p s).2 := by
  induction p generalizing s with
  | ret a => rfl
  | call op next ih => exact congrArg (_ :: ·) (ih _ _)

lemma head_mem_states (p : Prog Op Res α) (s : S) : s ∈ states exec p s := by
  cases p <;> simp [states]

lemma getLast?_states (p : Prog Op Res α) (s : S) : (states exec p s).getLast? = some (run exec p s).2 := by
  induction p generalizing s with
  | ret a => rfl
  | call op next ih =>
    rw [states, List.getLast?_cons, ih]
    rfl

section Chains

variable {exec} {R : S → S → Prop}

lemma states_eq_cons (p : Prog Op Res α) (s : S) : ∃ l, states exec p s = s :: l := by
  cases p with
  | ret a => exact ⟨[], rfl⟩
  | call op next => exact ⟨_, rfl⟩

lemma isChain_states_call {op : Op} {next : Res op → Prog Op Res α} {s : S} :
    (states exec (call op next) s).IsChain R ↔
      R s (exec op s).2 ∧ (states exec (next (exec op s).1) (exec op s).2).IsChain R := by
  obtain ⟨l, hl⟩ : ∃ l, states exec (next (exec op s).1) (exec op s).2 = (exec op s).2 :: l :=
    states_eq_cons _ _
  rw [states, hl]
  exact List.isChain_cons_cons

lemma isChain_states_bind {p : Prog Op Res α} {f : α → Prog Op Res β} {s : S}
    (hp : (states exec p s).IsChain R)
    (hf : (states exec (f (run exec p s).1) (run exec p s).2).IsChain R) :
    (states exec (p >>= f) s).IsChain R := by
  induction p generalizing s with
  | ret a => exact hf
  | call op next ih =>
    obtain ⟨hr, hn⟩ := isChain_states_call.mp hp
    exact isChain_states_call.mpr ⟨hr, ih _ hn hf⟩

lemma rel_of_isChain_states {p : Prog Op Res α} {s : S} (hrefl : ∀ s, R s s)
    (htrans : ∀ s t u, R s t → R t u → R s u) (h : (states exec p s).IsChain R) :
    ∀ t ∈ states exec p s, R s t ∧ R t (run exec p s).2 := by
  induction p generalizing s with
  | ret a =>
    intro t ht
    obtain rfl : t = s := by simpa [states] using ht
    exact ⟨hrefl t, hrefl t⟩
  | call op next ih =>
    obtain ⟨hr, hn⟩ := isChain_states_call.mp h
    intro t ht
    rcases List.mem_cons.mp ht with rfl | ht
    · exact ⟨hrefl t, htrans _ _ _ hr (ih _ hn _ (head_mem_states exec _ _)).2⟩
    · obtain ⟨h1, h2⟩ := ih _ hn t ht
      exact ⟨htrans _ _ _ hr h1, h2⟩

end Chains

end Run

end Prog

lemma exists_split_of_isChain {S : Type} {P : S → Prop} {l : List S} (h : l.IsChain (fun s t => P s → P t)) :
    ∃ l₁ l₂, l = l₁ ++ l₂ ∧ (∀ s ∈ l₁, ¬ P s) ∧ ∀ s ∈ l₂, P s := by
  classical
  induction l with
  | nil => exact ⟨[], [], rfl, by simp, by simp⟩
  | cons s l ih =>
    by_cases hs : P s
    · have ht : IsTrans S (fun s t => P s → P t) := ⟨fun _ _ _ h1 h2 hp => h2 (h1 hp)⟩
      refine ⟨[], s :: l, rfl, by simp, ?_⟩
      intro t hm
      rcases List.mem_cons.mp hm with rfl | hm
      · exact hs
      · exact (List.pairwise_cons.mp (List.isChain_iff_pairwise.mp h)).1 t hm hs
    · obtain ⟨l₁, l₂, rfl, h1, h2⟩ := ih h.of_cons
      exact ⟨s :: l₁, l₂, rfl, List.forall_mem_cons.mpr ⟨hs, h1⟩, h2⟩

end PacketFilter.Library.Programs
