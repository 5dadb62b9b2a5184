import Mathlib.Data.List.Basic
import Mathlib.Tactic.Common

/-!
# Interleavings of parties that do not interfere

Actions of several parties change one state and are answered.  What a party
sees of a state is a relation between states that it cannot tell apart.  If the
actions of the others keep what it sees, and its own actions only depend on
that, then it gets the answers of a run in which it is alone.
-/

namespace Interleaving

variable {σ : Type u} {α : Type v} {ρ : Type w} {ι : Type x}

/-- The final state, and the answer to every action. -/
def perform (step : σ → α → σ × ρ) (state : σ) : List α → σ × List (α × ρ)
  | [] => (state, [])
  | action :: rest =>
      let stepped := step state action
      let performed := perform step stepped.1 rest
      (performed.1, (action, stepped.2) :: performed.2)

/-- The parties neither see nor touch what is not theirs, as long as they only
do what they may. -/
structure Separated (step : σ → α → σ × ρ) (party : α → ι)
    (sees : ι → σ → σ → Prop) (may : α → Prop) : Prop where
  frame : ∀ {viewer action first second}, may action → party action ≠ viewer →
    sees viewer first second → sees viewer (step first action).1 second
  own : ∀ {action first second}, may action →
    sees (party action) first second →
    (step first action).2 = (step second action).2 ∧
      sees (party action) (step first action).1 (step second action).1

variable {step : σ → α → σ × ρ} {party : α → ι} {sees : ι → σ → σ → Prop}
  {may : α → Prop}

/-- The actions of the others may be erased: the answers to a party and what it
sees in the end stay the same. -/
theorem Separated.alone [DecidableEq ι]
    (separated : Separated step party sees may) {viewer : ι} {actions : List α}
    (allowed : ∀ action ∈ actions, may action) {first second : σ}
    (alike : sees viewer first second) :
    (perform step first actions).2.filter (fun answered =>
        party answered.1 = viewer) =
      (perform step second (actions.filter fun action =>
        party action = viewer)).2 ∧
    sees viewer (perform step first actions).1
      (perform step second (actions.filter fun action =>
        party action = viewer)).1 := by
  induction actions generalizing first second with
  | nil => exact ⟨rfl, alike⟩
  | cons action rest ih =>
      have permitted := allowed action List.mem_cons_self
      have others : ∀ other ∈ rest, may other := fun other member =>
        allowed other (List.mem_cons_of_mem _ member)
      by_cases own : party action = viewer
      · subst own
        obtain ⟨answer, kept⟩ := separated.own permitted alike
        obtain ⟨answers, final⟩ := ih others kept
        rw [List.filter_cons_of_pos (by simp)]
        refine ⟨?_, final⟩
        simp only [perform]
        rw [List.filter_cons_of_pos (by simp), answers, answer]
      · obtain ⟨answers, final⟩ :=
          ih others (separated.frame permitted own alike)
        rw [List.filter_cons_of_neg (by simpa using own)]
        refine ⟨?_, final⟩
        simp only [perform]
        rw [List.filter_cons_of_neg (by simpa using own), answers]

end Interleaving
