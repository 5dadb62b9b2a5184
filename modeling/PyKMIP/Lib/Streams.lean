import Mathlib.Tactic.Common

/-!
# Streams in chunks

A transport hands over a stream in chunks of its own choice.  `gather` asks for
chunks until it has a wanted number of items; what it returns, and what it
leaves in the transport, do not depend on the chunks.
-/

namespace Streams

variable {α σ : Type}

/-- Asked for at most some items, a transport answers with a chunk, or with
nothing that has a length. -/
abbrev Transport (σ α : Type) := Nat → σ → Option (List α) × σ

/-- How a collection of chunks ends. -/
inductive Ending where
  | full | absent | exhausted
deriving DecidableEq, Repr

/-- What was collected, how that ended, and the state of the transport. -/
structure Gathered (σ α : Type) where
  ending : Ending
  items : List α
  state : σ

/-- Ask for chunks until `wanted` items are collected.  `ask` is what one call
asks for when so many items are owed. -/
def gather (receive : Transport σ α) (ask : Nat → Nat) (wanted : Nat)
    (collected : List α) (state : σ) : Gathered σ α :=
  if collected.length < wanted then
    match receive (ask (wanted - collected.length)) state with
    | (none, after) => ⟨.absent, collected, after⟩
    | (some [], after) => ⟨.exhausted, collected, after⟩
    | (some (item :: items), after) =>
        gather receive ask wanted (collected ++ item :: items) after
  else ⟨.full, collected, state⟩
termination_by wanted - collected.length
decreasing_by
  -- every chunk that does not end the loop has an item
  simp only [List.length_append, List.length_cons]
  omega

/-- The sizes into which a transport cuts a stream, by the number of the call
and by what it is asked for. -/
structure Splitting where
  size : Nat → Nat → Nat
  positive : ∀ call asked, 0 < asked → 0 < size call asked
  bounded : ∀ call asked, size call asked ≤ asked

/-- The largest chunks. -/
def Splitting.whole : Splitting where
  size _ asked := asked
  positive _ _ := id
  bounded _ _ := Nat.le_refl _

/-- One item after the other. -/
def Splitting.single : Splitting where
  size _ asked := min asked 1
  positive _ _ positive := Nat.lt_min.mpr ⟨positive, Nat.one_pos⟩
  bounded _ _ := Nat.min_le_left ..

/-- A stream of which some items are still to be handed over. -/
structure Connection (α : Type) where
  pending : List α
  calls : Nat := 0

/-- The next chunk; the empty one when the stream has ended. -/
def Splitting.receive (splitting : Splitting) : Transport (Connection α) α :=
  fun asked connection =>
    let size := splitting.size connection.calls asked
    (some (connection.pending.take size),
      ⟨connection.pending.drop size, connection.calls + 1⟩)

/-- How many items a call asks for: some, and none that are not owed. -/
structure Asks (ask : Nat → Nat) : Prop where
  positive : ∀ owed, 0 < owed → 0 < ask owed
  bounded : ∀ owed, ask owed ≤ owed

theorem Asks.all : Asks id where
  positive _ := id
  bounded _ := Nat.le_refl _

theorem Asks.capped {cap : Nat} (positive : 0 < cap) : Asks (min · cap) where
  positive _ owed := Nat.lt_min.mpr ⟨owed, positive⟩
  bounded _ := Nat.min_le_left ..

section Gathering

variable {ask : Nat → Nat} (splitting : Splitting) {wanted : Nat}

theorem gather_full {receive : Transport σ α} {collected : List α}
    (full : wanted ≤ collected.length) (state : σ) :
    gather receive ask wanted collected state = ⟨.full, collected, state⟩ := by
  rw [gather, if_neg (Nat.not_lt.mpr full)]

theorem gather_ended {collected : List α}
    (owed : collected.length < wanted) (calls : Nat) :
    gather splitting.receive ask wanted collected ⟨[], calls⟩ =
      ⟨.exhausted, collected, ⟨[], calls + 1⟩⟩ := by
  rw [gather, if_pos owed]
  simp [Splitting.receive]

/-- One call moves a chunk from the stream to the collection. -/
theorem gather_step (asks : Asks ask) (collected pending : List α)
    (owed : collected.length < wanted) (more : pending ≠ []) (calls : Nat) :
    ∃ count, 0 < count ∧ count ≤ wanted - collected.length ∧
      gather splitting.receive ask wanted collected ⟨pending, calls⟩ =
        gather splitting.receive ask wanted (collected ++ pending.take count)
          ⟨pending.drop count, calls + 1⟩ := by
  let asked := ask (wanted - collected.length)
  let count := splitting.size calls asked
  have some : 0 < count :=
    splitting.positive calls asked (asks.positive _ (by omega))
  have within : count ≤ wanted - collected.length :=
    Nat.le_trans (splitting.bounded calls asked) (asks.bounded _)
  have received : splitting.receive asked ⟨pending, calls⟩ =
      (.some (pending.take count), ⟨pending.drop count, calls + 1⟩) := rfl
  refine ⟨count, some, within, ?_⟩
  rw [gather, if_pos owed, received]
  cases chunk : pending.take count with
  | nil =>
      rcases List.take_eq_nil_iff.mp chunk with none | ended
      · omega
      · exact absurd ended more
  | cons item items => rfl

/-- With enough left in the stream the loop collects what is owed and leaves
the rest, whatever the chunks are. -/
theorem gather_owed (asks : Asks ask) (collected pending : List α) (owed : Nat)
    (wants : wanted = collected.length + owed)
    (enough : owed ≤ pending.length) (calls : Nat) :
    ∃ later, gather splitting.receive ask wanted collected ⟨pending, calls⟩ =
      ⟨.full, collected ++ pending.take owed, ⟨pending.drop owed, later⟩⟩ := by
  induction owed using Nat.strongRecOn generalizing collected pending calls with
  | ind owed ih =>
      rcases Nat.eq_zero_or_pos owed with rfl | positive
      · rw [gather_full (Nat.le_of_eq wants)]
        exact ⟨calls, by simp⟩
      · have more : pending ≠ [] := by
          rintro rfl
          simp only [List.length_nil] at enough
          omega
        have owes : collected.length < wanted := by omega
        obtain ⟨count, some, within, step⟩ :=
          gather_step splitting asks collected pending owes more calls
        rw [wants, Nat.add_sub_cancel_left] at within
        have length : (pending.take count).length = count :=
          List.length_take_of_le (Nat.le_trans within enough)
        obtain ⟨later, gathered⟩ := ih (owed - count) (by omega)
          (collected ++ pending.take count) (pending.drop count)
          (by rw [List.length_append, length]; omega)
          (by rw [List.length_drop]; omega) (calls + 1)
        refine ⟨later, ?_⟩
        rw [step, gathered, List.append_assoc, List.drop_drop,
          ← List.take_add, Nat.add_sub_of_le within]

/-- When the stream ends too early the loop ends with all that was left. -/
theorem gather_short (asks : Asks ask) (collected pending : List α)
    (short : collected.length + pending.length < wanted) (calls : Nat) :
    ∃ later, gather splitting.receive ask wanted collected ⟨pending, calls⟩ =
      ⟨.exhausted, collected ++ pending, ⟨[], later⟩⟩ := by
  induction length : pending.length using Nat.strongRecOn
    generalizing collected pending calls with
  | ind left ih =>
      subst length
      by_cases ended : pending = []
      · subst ended
        have owes : collected.length < wanted := by simpa using short
        rw [gather_ended splitting owes]
        exact ⟨calls + 1, by simp⟩
      · have positive := List.length_pos_iff.mpr ended
        have owes : collected.length < wanted := by omega
        obtain ⟨count, some, -, step⟩ := gather_step splitting asks collected pending owes ended calls
        have lengths := congrArg List.length (List.take_append_drop count pending)
        rw [List.length_append] at lengths
        have dropped : (pending.drop count).length < pending.length := by
          rw [List.length_drop]
          omega
        obtain ⟨later, gathered⟩ := ih _ dropped
          (collected ++ pending.take count) (pending.drop count)
          (by rw [List.length_append]; omega) (calls + 1) rfl
        refine ⟨later, ?_⟩
        rw [step, gathered, List.append_assoc, List.take_append_drop]

end Gathering

end Streams
