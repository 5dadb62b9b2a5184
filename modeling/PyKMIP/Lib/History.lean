import Mathlib.Data.List.Basic
import Mathlib.Tactic.Common

/-!
# Histories of steps

A history is a list of steps, each of which enters one state and leaves in
another.  It is linked when every step enters the state that the one before it
left.  Invariants and reflexive, transitive relations that every step respects
hold along linked histories.
-/

namespace History

variable {enter leave : α → σ}

/-- The steps lead from the first state to the last one. -/
def Linked (enter leave : α → σ) : σ → List α → σ → Prop
  | start, [], final => start = final
  | start, step :: rest, final =>
      enter step = start ∧ Linked enter leave (leave step) rest final

theorem Linked.nil (state : σ) : Linked enter leave state [] state := rfl

theorem Linked.map (view : σ → τ) {start final : σ} {steps : List α}
    (linked : Linked enter leave start steps final) :
    Linked (view ∘ enter) (view ∘ leave) (view start) steps (view final) := by
  induction steps generalizing start with
  | nil => exact congrArg view linked
  | cons step rest ih => exact ⟨congrArg view linked.1, ih linked.2⟩

theorem Linked.append
    {start middle final : σ} {first second : List α}
    (firstLinked : Linked enter leave start first middle)
    (secondLinked : Linked enter leave middle second final) :
    Linked enter leave start (first ++ second) final := by
  induction first generalizing start with
  | nil =>
      cases firstLinked
      exact secondLinked
  | cons step rest ih => exact ⟨firstLinked.1, ih firstLinked.2⟩

theorem Linked.split
    {start final : σ} {first second : List α}
    (linked : Linked enter leave start (first ++ second) final) :
    ∃ middle, Linked enter leave start first middle ∧
      Linked enter leave middle second final := by
  induction first generalizing start with
  | nil => exact ⟨start, rfl, linked⟩
  | cons step rest ih =>
      obtain ⟨middle, restLinked, secondLinked⟩ := ih linked.2
      exact ⟨middle, ⟨linked.1, restLinked⟩, secondLinked⟩

/-- The state before and after a step in the middle of a history. -/
theorem Linked.at
    {start final : σ} {prior later : List α} {step : α}
    (linked : Linked enter leave start (prior ++ step :: later) final) :
    Linked enter leave start prior (enter step) ∧
      Linked enter leave (leave step) later final := by
  obtain ⟨middle, priorLinked, entered, laterLinked⟩ := linked.split
  exact ⟨entered ▸ priorLinked, laterLinked⟩

/-- What holds first and is kept by every step of the history holds whenever a
step is entered, and at the end. -/
theorem Linked.invariant
    (property : σ → Prop) {start final : σ} {steps : List α}
    (linked : Linked enter leave start steps final)
    (keeps : ∀ step ∈ steps, property (enter step) → property (leave step))
    (holds : property start) :
    property final ∧ ∀ step ∈ steps, property (enter step) := by
  induction steps generalizing start with
  | nil =>
      cases linked
      exact ⟨holds, fun _ member => absurd member (List.not_mem_nil)⟩
  | cons step rest ih =>
      obtain ⟨entered, restLinked⟩ := linked
      subst entered
      obtain ⟨atEnd, onEntry⟩ := ih restLinked
        (fun other member => keeps other (.tail _ member))
        (keeps step (.head _) holds)
      refine ⟨atEnd, fun other member => ?_⟩
      rcases List.mem_cons.mp member with rfl | later
      · exact holds
      · exact onEntry other later

/-- A reflexive and transitive relation between the states around every step
relates the states around the history. -/
theorem Linked.relation
    (related : σ → σ → Prop) {start final : σ} {steps : List α}
    (linked : Linked enter leave start steps final)
    (refl : ∀ state, related state state)
    (trans : ∀ {first second third},
      related first second → related second third → related first third)
    (moves : ∀ step ∈ steps, related (enter step) (leave step)) :
    related start final := by
  induction steps generalizing start with
  | nil =>
      cases linked
      exact refl _
  | cons step rest ih =>
      obtain ⟨entered, restLinked⟩ := linked
      subst entered
      exact trans (moves step (.head _))
        (ih restLinked fun other member => moves other (.tail _ member))

/-- Steps that do not move may be left out. -/
theorem Linked.filter
    {start final : σ} {steps : List α} (kept : α → Bool)
    (linked : Linked enter leave start steps final)
    (still : ∀ step ∈ steps, kept step = false → leave step = enter step) :
    Linked enter leave start (steps.filter kept) final := by
  induction steps generalizing start with
  | nil => exact linked
  | cons step rest ih =>
      obtain ⟨entered, restLinked⟩ := linked
      have rest := ih restLinked fun other member => still other (.tail _ member)
      cases keeps : kept step with
      | true =>
          rw [List.filter_cons_of_pos keeps]
          exact ⟨entered, rest⟩
      | false =>
          rw [List.filter_cons_of_neg (by simp [keeps])]
          rwa [still step (.head _) keeps, entered] at rest

end History
