import Mathlib.Tactic.Common

/-!
# Reasoning about computations whose state survives an exception

`EStateM ε σ` runs over a state that an exception does not roll back.  The
rules below invert a run at its binds, say which part of the state a
computation leaves alone (always, or whenever it raises), and compare two
computations that start in related states.
-/

namespace StatefulExcept

open EStateM

/-- Raise the exception when the condition holds; continue otherwise. -/
def raiseIf (condition : Prop) [Decidable condition] (exception : ε) :
    EStateM ε σ Unit :=
  if condition then throw exception else pure ()

/-- Embed a computation that has no state. -/
def fromExcept (outcome : Except ε α) : EStateM ε σ α :=
  match outcome with
  | .ok value => pure value
  | .error exception => throw exception

/-- Run a computation on one component of the state.  The component is written
back when the computation returns and also when it raises. -/
def focus
    (read : σ → τ) (write : τ → σ → σ) (body : EStateM ε τ α) :
    EStateM ε σ α := fun state =>
  match body.run (read state) with
  | .ok value component => .ok value (write component state)
  | .error exception component => .error exception (write component state)

/-- Catch every exception and return it. -/
def attempt {ε σ α : Type u} (action : EStateM ε σ α) :
    EStateM ε σ (Except ε α) := fun state =>
  match action.run state with
  | .ok value after => .ok (.ok value) after
  | .error exception after => .ok (.error exception) after

/-- Change the state before a computation, and again when it ends in any way. -/
def bracket (enter leave : σ → σ) (action : EStateM ε σ α) : EStateM ε σ α :=
  fun state =>
    match action.run (enter state) with
    | .ok value after => .ok value (leave after)
    | .error exception after => .error exception (leave after)

/-- The state in which a run ends. -/
def finalState : Result ε σ α → σ
  | .ok _ state => state
  | .error _ state => state

/-- What a run returns or raises. -/
def outcomeOf : Result ε σ α → Except ε α
  | .ok value _ => .ok value
  | .error exception _ => .error exception

@[simp] theorem finalState_ok (value : α) (state : σ) :
    finalState (.ok value state : Result ε σ α) = state := rfl

@[simp] theorem finalState_error (exception : ε) (state : σ) :
    finalState (.error exception state : Result ε σ α) = state := rfl

theorem run_attempt {ε σ α : Type u} (action : EStateM ε σ α) (state : σ) :
    (attempt action).run state =
      .ok (outcomeOf (action.run state)) (finalState (action.run state)) := by
  show attempt action state = _
  unfold attempt
  cases action.run state <;> rfl

section Inversion

theorem except_bind_ok_iff
    {first : Except ε α} {next : α → Except ε β} {value : β} :
    (first >>= next) = .ok value ↔
      ∃ middle, first = .ok middle ∧ next middle = .ok value := by
  cases first with
  | ok middle => simp [bind, Except.bind]
  | error exception => simp [bind, Except.bind]

theorem bind_ok_iff
    {first : EStateM ε σ α} {next : α → EStateM ε σ β}
    {before after : σ} {value : β} :
    (first >>= next).run before = .ok value after ↔
      ∃ middle between, first.run before = .ok middle between ∧
        (next middle).run between = .ok value after := by
  rw [run_bind]
  cases first.run before with
  | ok middle between => simp
  | error exception between => simp

theorem run_raiseIf
    (condition : Prop) [Decidable condition] (exception : ε) (state : σ) :
    (raiseIf condition exception).run state =
      if condition then .error exception state else .ok () state := by
  unfold raiseIf
  split <;> rfl

@[simp] theorem raiseIf_ok_iff
    {condition : Prop} [Decidable condition] {exception : ε}
    {before after : σ} {value : Unit} :
    (raiseIf condition exception).run before = .ok value after ↔
      ¬condition ∧ before = after := by
  rw [run_raiseIf]
  by_cases holds : condition <;> simp [holds]

@[simp] theorem fromExcept_ok_iff
    {outcome : Except ε α} {before after : σ} {value : α} :
    (fromExcept outcome : EStateM ε σ α).run before = .ok value after ↔
      outcome = .ok value ∧ before = after := by
  cases outcome with
  | ok result => simp [fromExcept]
  | error exception =>
      constructor
      · intro ran
        cases ran
      · intro ran
        cases ran.1

theorem run_fromExcept (outcome : Except ε α) (state : σ) :
    (fromExcept outcome : EStateM ε σ α).run state =
      match outcome with
      | .ok value => .ok value state
      | .error exception => .error exception state := by
  cases outcome <;> rfl

/-- The end of a run that leaves the state as it is. -/
def concluded (outcome : Except ε α) (state : σ) : Result ε σ α :=
  match outcome with
  | .ok value => .ok value state
  | .error exception => .error exception state

theorem run_fromExcept_concluded (outcome : Except ε α) (state : σ) :
    (fromExcept outcome : EStateM ε σ α).run state = concluded outcome state := by
  cases outcome <;> rfl

theorem run_bind_concluded
    {first : EStateM ε σ α} {next : α → EStateM ε σ β} {state : σ}
    {outcome : Except ε α} {others : α → Except ε β}
    (ranFirst : first.run state = concluded outcome state)
    (ranNext : ∀ value, (next value).run state = concluded (others value) state) :
    (first >>= next).run state = concluded (outcome >>= others) state := by
  rw [run_bind, ranFirst]
  cases outcome with
  | ok value => exact ranNext value
  | error exception => rfl

theorem run_get_bind (next : σ → EStateM ε σ α) (state : σ) :
    (get >>= next).run state = (next state).run state := rfl

theorem run_fromExcept_bind
    {outcome : Except ε α} {value : α} (returned : outcome = .ok value)
    (next : α → EStateM ε σ β) (state : σ) :
    (fromExcept outcome >>= next).run state = (next value).run state := by
  rw [returned]
  rfl

theorem run_raiseIf_bind
    {condition : Prop} [Decidable condition] (passes : ¬condition)
    (exception : ε) (next : Unit → EStateM ε σ α) (state : σ) :
    (raiseIf condition exception >>= next).run state =
      (next ()).run state := by
  rw [run_bind, run_raiseIf, if_neg passes]

theorem run_focus
    (read : σ → τ) (write : τ → σ → σ) (body : EStateM ε τ α) (state : σ) :
    (focus read write body).run state =
      match body.run (read state) with
      | .ok value component => .ok value (write component state)
      | .error exception component =>
          .error exception (write component state) := by
  show focus read write body state = _
  unfold focus
  cases body.run (read state) <;> rfl

theorem run_bracket
    (enter leave : σ → σ) (action : EStateM ε σ α) (state : σ) :
    (bracket enter leave action).run state =
      match action.run (enter state) with
      | .ok value after => .ok value (leave after)
      | .error exception after => .error exception (leave after) := by
  show bracket enter leave action state = _
  unfold bracket
  cases action.run (enter state) <;> rfl

end Inversion

section Frame

variable {project : σ → ρ}

/-- No outcome of the computation changes the projection of the state. -/
def Preserves (project : σ → ρ) (action : EStateM ε σ α) : Prop :=
  ∀ state, project (finalState (action.run state)) = project state

theorem Preserves.pure (value : α) :
    Preserves project (Pure.pure value : EStateM ε σ α) :=
  fun _ => rfl

theorem Preserves.raise (exception : ε) :
    Preserves project (throw exception : EStateM ε σ α) :=
  fun _ => rfl

theorem Preserves.raiseIf
    (condition : Prop) [Decidable condition] (exception : ε) :
    Preserves project (raiseIf condition exception) := by
  intro state
  rw [run_raiseIf]
  split <;> rfl

theorem Preserves.fromExcept (outcome : Except ε α) :
    Preserves project (fromExcept outcome) := by
  intro state
  cases outcome <;> rfl

theorem Preserves.get : Preserves project (get : EStateM ε σ σ) :=
  fun _ => rfl

theorem Preserves.modify {change : σ → σ}
    (kept : ∀ state, project (change state) = project state) :
    Preserves project (modify change : EStateM ε σ PUnit) :=
  kept

theorem Preserves.bind
    {first : EStateM ε σ α} {next : α → EStateM ε σ β}
    (firstKeeps : Preserves project first)
    (nextKeeps : ∀ value, Preserves project (next value)) :
    Preserves project (first >>= next) := by
  intro state
  have kept := firstKeeps state
  rw [run_bind]
  cases run : first.run state with
  | ok value between =>
      rw [run] at kept
      exact (nextKeeps value between).trans kept
  | error exception between =>
      rw [run] at kept
      exact kept

theorem Preserves.ite
    {condition : Prop} [Decidable condition] {yes no : EStateM ε σ α}
    (yesKeeps : condition → Preserves project yes)
    (noKeeps : ¬condition → Preserves project no) :
    Preserves project (if condition then yes else no) := by
  split
  · exact yesKeeps ‹_›
  · exact noKeeps ‹_›

end Frame

section Atomicity

/-- From the given state, the computation either returns in an allowed state or
raises before it changes anything. -/
def AtomicAt (allowed : σ → Prop) (before : σ) (action : EStateM ε σ α) : Prop :=
  match action.run before with
  | .ok _ after => allowed after
  | .error _ after => after = before

variable {allowed : σ → Prop} {before : σ}

theorem AtomicAt.pure {value : α} (stays : allowed before) :
    AtomicAt allowed before (Pure.pure value : EStateM ε σ α) :=
  stays

theorem AtomicAt.raise (exception : ε) :
    AtomicAt allowed before (throw exception : EStateM ε σ α) :=
  rfl

theorem AtomicAt.set {after : σ} (reached : allowed after) :
    AtomicAt allowed before (set after : EStateM ε σ PUnit) :=
  reached

theorem AtomicAt.get {next : σ → EStateM ε σ α}
    (nextAtomic : AtomicAt allowed before (next before)) :
    AtomicAt allowed before (MonadState.get >>= next) :=
  nextAtomic

theorem AtomicAt.fromExcept
    {outcome : Except ε α} {next : α → EStateM ε σ β}
    (nextAtomic : ∀ value, outcome = .ok value →
      AtomicAt allowed before (next value)) :
    AtomicAt allowed before (fromExcept outcome >>= next) := by
  cases outcome with
  | ok value => exact nextAtomic value rfl
  | error exception => rfl

theorem AtomicAt.raiseIf
    {condition : Prop} [Decidable condition] {exception : ε}
    {next : Unit → EStateM ε σ α}
    (nextAtomic : ¬condition → AtomicAt allowed before (next ())) :
    AtomicAt allowed before (raiseIf condition exception >>= next) := by
  unfold AtomicAt
  rw [run_bind, run_raiseIf]
  by_cases holds : condition
  · rw [if_pos holds]
  · rw [if_neg holds]
    exact nextAtomic holds

theorem AtomicAt.raiseIfLast
    {condition : Prop} [Decidable condition] {exception : ε}
    (stays : allowed before) :
    AtomicAt allowed before (StatefulExcept.raiseIf condition exception) := by
  unfold AtomicAt
  rw [run_raiseIf]
  split <;> rename_i h <;> split at h <;> cases h
  · exact stays
  · rfl

theorem AtomicAt.ite
    {condition : Prop} [Decidable condition] {yes no : EStateM ε σ α}
    (yesAtomic : condition → AtomicAt allowed before yes)
    (noAtomic : ¬condition → AtomicAt allowed before no) :
    AtomicAt allowed before (if condition then yes else no) := by
  split
  · exact yesAtomic ‹_›
  · exact noAtomic ‹_›

/-- What follows an atomic computation may only answer. -/
theorem AtomicAt.map {action : EStateM ε σ α} (result : α → β)
    (actionAtomic : AtomicAt allowed before action) :
    AtomicAt allowed before (action >>= fun value => Pure.pure (result value)) := by
  unfold AtomicAt at *
  rw [run_bind]
  cases ran : action.run before with
  | ok value after => simpa [ran] using actionAtomic
  | error exception after => simpa [ran] using actionAtomic

/-- The state may be read off at the end. -/
theorem AtomicAt.read {action : EStateM ε σ α} {result : α → σ → β}
    (actionAtomic : AtomicAt allowed before action) :
    AtomicAt allowed before (action >>= fun value =>
      MonadState.get >>= fun after => Pure.pure (result value after)) := by
  unfold AtomicAt at *
  rw [run_bind]
  cases ran : action.run before with
  | ok value after =>
      rw [ran] at actionAtomic
      exact actionAtomic
  | error exception after =>
      rw [ran] at actionAtomic
      exact actionAtomic

theorem AtomicAt.weaken {weaker : σ → Prop} {action : EStateM ε σ α}
    (actionAtomic : AtomicAt allowed before action)
    (implies : ∀ after, allowed after → weaker after) :
    AtomicAt weaker before action := by
  unfold AtomicAt at *
  cases ran : action.run before with
  | ok value after =>
      rw [ran] at actionAtomic
      exact implies after actionAtomic
  | error exception after => rwa [ran] at actionAtomic

end Atomicity

section Returns

/-- Whenever the computation returns from the given state, it does so in an
allowed state. -/
def ReturnsIn (allowed : σ → Prop) (before : σ) (action : EStateM ε σ α) :
    Prop :=
  ∀ value after, action.run before = .ok value after → allowed after

variable {allowed : σ → Prop} {before : σ}

theorem ReturnsIn.any (before : σ) (action : EStateM ε σ α) :
    ReturnsIn (fun _ => True) before action :=
  fun _ _ _ => trivial

theorem ReturnsIn.pure {value : α} (stays : allowed before) :
    ReturnsIn allowed before (Pure.pure value : EStateM ε σ α) := by
  intro result after ran
  cases ran
  exact stays

theorem ReturnsIn.raise (exception : ε) :
    ReturnsIn allowed before (throw exception : EStateM ε σ α) := by
  intro result after ran
  cases ran

theorem ReturnsIn.set {after : σ} (reached : allowed after) :
    ReturnsIn allowed before (set after : EStateM ε σ PUnit) := by
  intro result final ran
  cases ran
  exact reached

theorem ReturnsIn.modify {change : σ → σ} (reached : allowed (change before)) :
    ReturnsIn allowed before (modify change : EStateM ε σ PUnit) := by
  intro result final ran
  cases ran
  exact reached

theorem ReturnsIn.get {next : σ → EStateM ε σ α}
    (returns : ReturnsIn allowed before (next before)) :
    ReturnsIn allowed before (MonadState.get >>= next) :=
  returns

theorem ReturnsIn.bind
    {between : σ → Prop} {first : EStateM ε σ α} {next : α → EStateM ε σ β}
    (firstReturns : ReturnsIn between before first)
    (nextReturns : ∀ value state, between state →
      ReturnsIn allowed state (next value)) :
    ReturnsIn allowed before (first >>= next) := by
  intro result after ran
  obtain ⟨value, state, returned, rest⟩ := bind_ok_iff.mp ran
  exact nextReturns value state (firstReturns value state returned) result
    after rest

theorem ReturnsIn.fromExcept
    {outcome : Except ε α} {next : α → EStateM ε σ β}
    (returns : ∀ value, outcome = .ok value →
      ReturnsIn allowed before (next value)) :
    ReturnsIn allowed before (fromExcept outcome >>= next) := by
  cases outcome with
  | ok value => exact returns value rfl
  | error exception => exact .raise exception

theorem ReturnsIn.raiseIfLast
    {condition : Prop} [Decidable condition] {exception : ε}
    (returns : ¬condition → allowed before) :
    ReturnsIn allowed before (StatefulExcept.raiseIf condition exception) := by
  intro result after ran
  obtain ⟨holds, rfl⟩ := raiseIf_ok_iff.mp ran
  exact returns holds

theorem ReturnsIn.raiseIf
    {condition : Prop} [Decidable condition] {exception : ε}
    {next : Unit → EStateM ε σ α}
    (returns : ¬condition → ReturnsIn allowed before (next ())) :
    ReturnsIn allowed before (raiseIf condition exception >>= next) := by
  intro result after ran
  obtain ⟨_, state, passed, rest⟩ := bind_ok_iff.mp ran
  obtain ⟨holds, rfl⟩ := raiseIf_ok_iff.mp passed
  exact returns holds result after rest

theorem ReturnsIn.ite
    {condition : Prop} [Decidable condition] {yes no : EStateM ε σ α}
    (yesReturns : condition → ReturnsIn allowed before yes)
    (noReturns : ¬condition → ReturnsIn allowed before no) :
    ReturnsIn allowed before (if condition then yes else no) := by
  split
  · exact yesReturns ‹_›
  · exact noReturns ‹_›

theorem ReturnsIn.map {action : EStateM ε σ α} (result : α → β)
    (returns : ReturnsIn allowed before action) :
    ReturnsIn allowed before
      (action >>= fun value => Pure.pure (result value)) :=
  .bind returns fun _ _ reached => .pure reached

/-- The state may be read off at the end. -/
theorem ReturnsIn.read {action : EStateM ε σ α} {result : α → σ → β}
    (returns : ReturnsIn allowed before action) :
    ReturnsIn allowed before (action >>= fun value =>
      MonadState.get >>= fun after => Pure.pure (result value after)) :=
  .bind returns fun _ _ reached => .get (.pure reached)

/-- What every step of a loop over a list keeps, the loop keeps. -/
theorem ReturnsIn.forM
    {values : List γ} {body : γ → EStateM ε σ PUnit}
    (keeps : ∀ value state, allowed state → ReturnsIn allowed state (body value))
    (holds : allowed before) :
    ReturnsIn allowed before (values.forM body) := by
  induction values generalizing before with
  | nil => exact .pure holds
  | cons value rest ih =>
      exact .bind (keeps value before holds) fun _ state reached => ih reached

end Returns

section Simulation

variable {R : σ → τ → Prop} {E : ε → η → Prop}

/-- Runs from related states end alike: both return, with related values, or
both raise, with related exceptions, and the final states are related. -/
inductive Alike
    (R : σ → τ → Prop) (E : ε → η → Prop) (Q : α → β → Prop) :
    Result ε σ α → Result η τ β → Prop where
  | ok {left : α} {right : β} {leftAfter : σ} {rightAfter : τ} :
      Q left right → R leftAfter rightAfter →
      Alike R E Q (.ok left leftAfter) (.ok right rightAfter)
  | error {left : ε} {right : η} {leftAfter : σ} {rightAfter : τ} :
      E left right → R leftAfter rightAfter →
      Alike R E Q (.error left leftAfter) (.error right rightAfter)

/-- Two computations keep the states related and answer alike. -/
def Simulates
    (R : σ → τ → Prop) (E : ε → η → Prop) (Q : α → β → Prop)
    (left : EStateM ε σ α) (right : EStateM η τ β) : Prop :=
  ∀ leftState rightState, R leftState rightState →
    Alike R E Q (left.run leftState) (right.run rightState)

theorem Simulates.pure
    {Q : α → β → Prop} {left : α} {right : β} (related : Q left right) :
    Simulates R E Q (Pure.pure left) (Pure.pure right) :=
  fun _ _ states => .ok related states

theorem Simulates.raise
    {Q : α → β → Prop} {left : ε} {right : η} (related : E left right) :
    Simulates R E Q (throw left) (throw right) :=
  fun _ _ states => .error related states

theorem Simulates.bind
    {P : α → β → Prop} {Q : γ → δ → Prop}
    {left : EStateM ε σ α} {right : EStateM η τ β}
    {leftNext : α → EStateM ε σ γ} {rightNext : β → EStateM η τ δ}
    (first : Simulates R E P left right)
    (next : ∀ leftValue rightValue, P leftValue rightValue →
      Simulates R E Q (leftNext leftValue) (rightNext rightValue)) :
    Simulates R E Q (left >>= leftNext) (right >>= rightNext) := by
  intro leftState rightState states
  have ran := first leftState rightState states
  rw [run_bind, run_bind]
  cases leftRun : left.run leftState with
  | ok leftValue leftBetween =>
      rw [leftRun] at ran
      cases rightRun : right.run rightState with
      | ok rightValue rightBetween =>
          rw [rightRun] at ran
          cases ran with
          | ok values between =>
              exact next leftValue rightValue values _ _ between
      | error exception rightBetween =>
          rw [rightRun] at ran
          cases ran
  | error leftException leftBetween =>
      rw [leftRun] at ran
      cases rightRun : right.run rightState with
      | ok rightValue rightBetween =>
          rw [rightRun] at ran
          cases ran
      | error exception rightBetween =>
          rw [rightRun] at ran
          cases ran with
          | error exceptions between => exact .error exceptions between

theorem Simulates.raiseIf
    {condition : Prop} [Decidable condition] {left : ε} {right : η}
    (related : E left right) :
    Simulates R E Eq (raiseIf condition left) (raiseIf condition right) := by
  intro leftState rightState states
  rw [run_raiseIf, run_raiseIf]
  split
  · exact .error related states
  · exact .ok rfl states

theorem Simulates.ite
    {condition : Prop} [Decidable condition] {Q : α → β → Prop}
    {leftYes leftNo : EStateM ε σ α} {rightYes rightNo : EStateM η τ β}
    (yes : condition → Simulates R E Q leftYes rightYes)
    (no : ¬condition → Simulates R E Q leftNo rightNo) :
    Simulates R E Q (if condition then leftYes else leftNo)
      (if condition then rightYes else rightNo) := by
  split
  · exact yes ‹_›
  · exact no ‹_›

end Simulation

end StatefulExcept
