import Mathlib.Logic.Function.Basic
import PyKMIP.Lib.History

/-!
# Atomic objects

Clients call an object and get answers.  An atomic object performs every call at
one point between the call and the answer.  What its clients see of a run is
explained by performing the calls one after the other, in the order of these
points.  A system that is simulated by an atomic object is explained in the same
way.
-/

namespace AtomicObjects

open History

section Transitions

variable {σ τ α : Type*}

/-- A run of silent and of visible steps, with the labels of the visible ones. -/
inductive Runs (step : σ → Option α → σ → Prop) : σ → List α → σ → Prop where
  | done (state : σ) : Runs step state [] state
  | silent {state next final : σ} {trace : List α} :
      step state none next → Runs step next trace final →
      Runs step state trace final
  | visible {state next final : σ} {label : α} {trace : List α} :
      step state (some label) next → Runs step next trace final →
      Runs step state (label :: trace) final

/-- Silent steps are simulated by no step, and visible steps by one with the
same label. -/
structure Simulation (concrete : σ → Option α → σ → Prop)
    (abstract : τ → Option α → τ → Prop) (related : σ → τ → Prop) : Prop where
  silent {state next : σ} {shadow : τ} : related state shadow →
    concrete state none next → related next shadow
  visible {state next : σ} {shadow : τ} {label : α} : related state shadow →
    concrete state (some label) next →
    ∃ following, abstract shadow (some label) following ∧ related next following

theorem Simulation.runs {concrete : σ → Option α → σ → Prop}
    {abstract : τ → Option α → τ → Prop} {related : σ → τ → Prop}
    (simulation : Simulation concrete abstract related) {state final : σ}
    {trace : List α} (ran : Runs concrete state trace final) {shadow : τ}
    (start : related state shadow) :
    ∃ last, Runs abstract shadow trace last ∧ related final last := by
  induction ran generalizing shadow with
  | done state => exact ⟨shadow, .done shadow, start⟩
  | silent step _ ih => exact ih (simulation.silent start step)
  | visible step _ ih =>
      obtain ⟨following, stepped, next⟩ := simulation.visible start step
      obtain ⟨last, followed, ends⟩ := ih next
      exact ⟨last, .visible stepped followed, ends⟩

end Transitions

section Objects

variable {ι γ δ ρ σ : Type*}

/-- A client calls; the call is performed, with what the environment has chosen
for it; the client gets an answer. -/
inductive Event (γ δ ρ : Type*) where
  | called (call : γ)
  | performed (choice : δ)
  | returned (answer : ρ)

/-- A call that is performed, and the state in which it is. -/
structure Service (ι γ δ σ : Type*) where
  client : ι
  call : γ
  choice : δ
  before : σ

/-- How far the call of a client is. -/
inductive Stage (ι γ δ σ : Type*) where
  | idle
  | calling (call : γ)
  | performed (service : Service ι γ δ σ)

/-- The state of an object, and the stage of every client. -/
structure Atomic (ι γ δ σ : Type*) where
  object : σ
  stages : ι → Stage ι γ δ σ

variable [DecidableEq ι] (after : Service ι γ δ σ → σ)
  (answers : Service ι γ δ σ → ρ → Prop)

inductive Step : Atomic ι γ δ σ → Option (ι × Event γ δ ρ) →
    Atomic ι γ δ σ → Prop where
  | called {object : σ} {stages : ι → Stage ι γ δ σ} (client : ι) (call : γ) :
      stages client = .idle →
      Step ⟨object, stages⟩ (some (client, .called call))
        ⟨object, Function.update stages client (.calling call)⟩
  | performed {object : σ} {stages : ι → Stage ι γ δ σ} (client : ι) (call : γ)
      (choice : δ) : stages client = .calling call →
      Step ⟨object, stages⟩ (some (client, .performed choice))
        ⟨after ⟨client, call, choice, object⟩,
          Function.update stages client
            (.performed ⟨client, call, choice, object⟩)⟩
  | returned {object : σ} {stages : ι → Stage ι γ δ σ} (client : ι)
      (service : Service ι γ δ σ) (answer : ρ) :
      stages client = .performed service → answers service answer →
      Step ⟨object, stages⟩ (some (client, .returned answer))
        ⟨object, Function.update stages client .idle⟩

/-- The events of a client from a stage on are explained by the services for it,
in this order. -/
inductive Explains : Stage ι γ δ σ → List (Service ι γ δ σ) →
    List (Event γ δ ρ) → Prop where
  | nothing (stage : Stage ι γ δ σ) : Explains stage [] []
  | called {call : γ} {services : List (Service ι γ δ σ)}
      {events : List (Event γ δ ρ)} :
      Explains (.calling call) services events →
      Explains .idle services (.called call :: events)
  | performed {service : Service ι γ δ σ} {services : List (Service ι γ δ σ)}
      {events : List (Event γ δ ρ)} :
      Explains (.performed service) services events →
      Explains (.calling service.call) (service :: services)
        (.performed service.choice :: events)
  | returned {service : Service ι γ δ σ} {answer : ρ}
      {services : List (Service ι γ δ σ)} {events : List (Event γ δ ρ)} :
      answers service answer → Explains .idle services events →
      Explains (.performed service) services (.returned answer :: events)

/-- Whose call is performed, and with which choice. -/
def performance? : ι × Event γ δ ρ → Option (ι × δ)
  | (client, .performed choice) => some (client, choice)
  | _ => none

/-- The events of one client. -/
def eventsOf (client : ι) (trace : List (ι × Event γ δ ρ)) :
    List (Event γ δ ρ) :=
  (trace.filter (·.1 = client)).map Prod.snd

/-- The services lead from one state to the other, they are in the order in
which the calls have been performed in the trace, and what every client sees is
explained by the services for it. -/
structure Explained (stages : ι → Stage ι γ δ σ) (first last : σ)
    (trace : List (ι × Event γ δ ρ)) (services : List (Service ι γ δ σ)) :
    Prop where
  sequential : Linked Service.before after first services last
  ordered : services.map (fun service => (service.client, service.choice)) =
    trace.filterMap performance?
  explains : ∀ client, Explains answers (stages client)
    (services.filter (·.client = client)) (eventsOf client trace)

variable {after answers}

theorem eventsOf_own (client : ι) (event : Event γ δ ρ)
    (trace : List (ι × Event γ δ ρ)) :
    eventsOf client ((client, event) :: trace) =
      event :: eventsOf client trace := by
  unfold eventsOf
  rw [List.filter_cons_of_pos (by simp)]
  rfl

theorem eventsOf_other {client other : ι} (different : client ≠ other)
    (event : Event γ δ ρ) (trace : List (ι × Event γ δ ρ)) :
    eventsOf other ((client, event) :: trace) = eventsOf other trace := by
  unfold eventsOf
  rw [List.filter_cons_of_neg (by simpa using different)]

/-- An event that performs nothing leaves the services as they are. -/
theorem Explained.event {stages : ι → Stage ι γ δ σ} {first last : σ}
    {trace : List (ι × Event γ δ ρ)} {services : List (Service ι γ δ σ)}
    {client : ι} {stage : Stage ι γ δ σ} {event : Event γ δ ρ}
    (explained : Explained after answers
      (Function.update stages client stage) first last trace services)
    (performs : performance? (client, event) = none)
    (explains : Explains answers stage (services.filter (·.client = client))
        (eventsOf client trace) →
      Explains answers (stages client) (services.filter (·.client = client))
        (event :: eventsOf client trace)) :
    Explained after answers stages first last ((client, event) :: trace)
      services where
  sequential := explained.sequential
  ordered := by
    rw [explained.ordered, List.filterMap_cons_none performs]
  explains := by
    intro viewer
    have seen := explained.explains viewer
    by_cases own : client = viewer
    · subst own
      rw [Function.update_self] at seen
      rw [eventsOf_own]
      exact explains seen
    · rw [Function.update_of_ne (Ne.symm own)] at seen
      rw [eventsOf_other own]
      exact seen

/-- A call that is performed is the first of the services. -/
theorem Explained.service {stages : ι → Stage ι γ δ σ} {last : σ}
    {trace : List (ι × Event γ δ ρ)} {services : List (Service ι γ δ σ)}
    (service : Service ι γ δ σ)
    (explained : Explained after answers
      (Function.update stages service.client (.performed service))
      (after service) last trace services)
    (calling : stages service.client = .calling service.call) :
    Explained after answers stages service.before last
      ((service.client, .performed service.choice) :: trace)
      (service :: services) where
  sequential := ⟨rfl, explained.sequential⟩
  ordered := by
    rw [List.map_cons, explained.ordered]
    rfl
  explains := by
    intro viewer
    have seen := explained.explains viewer
    by_cases own : service.client = viewer
    · subst own
      rw [Function.update_self] at seen
      rw [eventsOf_own, calling, List.filter_cons_of_pos (by simp)]
      exact .performed seen
    · rw [Function.update_of_ne (Ne.symm own)] at seen
      rw [eventsOf_other own, List.filter_cons_of_neg (by simpa using own)]
      exact seen

/-- Every run of an atomic object is explained by services one after the
other. -/
theorem Runs.explained {state final : Atomic ι γ δ σ}
    {trace : List (ι × Event γ δ ρ)}
    (ran : Runs (Step after answers) state trace final) :
    ∃ services, Explained after answers state.stages state.object final.object
      trace services := by
  induction ran with
  | done state => exact ⟨[], rfl, rfl, fun client => .nothing _⟩
  | silent step _ _ => cases step
  | visible step _ ih =>
      obtain ⟨services, explained⟩ := ih
      cases step with
      | called client call idle =>
          refine ⟨services, explained.event rfl fun seen => ?_⟩
          rw [idle]
          exact .called seen
      | performed client call choice calling =>
          exact ⟨_ :: services, .service ⟨client, call, choice, _⟩ explained
            calling⟩
      | returned client service answer performed answers =>
          refine ⟨services, explained.event rfl fun seen => ?_⟩
          rw [performed]
          exact .returned answers seen

/-- What a system does that an atomic object simulates is explained by services
one after the other. -/
theorem Simulation.explained {ω : Type*}
    {concrete : ω → Option (ι × Event γ δ ρ) → ω → Prop}
    {related : ω → Atomic ι γ δ σ → Prop}
    (simulation : Simulation concrete (Step after answers) related)
    {state final : ω} {trace : List (ι × Event γ δ ρ)}
    (ran : Runs concrete state trace final) {shadow : Atomic ι γ δ σ}
    (start : related state shadow) :
    ∃ last services, related final last ∧
      Explained after answers shadow.stages shadow.object last.object trace
        services := by
  obtain ⟨last, followed, ends⟩ := simulation.runs ran start
  obtain ⟨services, explained⟩ := followed.explained
  exact ⟨last, services, ends, explained⟩

end Objects

end AtomicObjects
