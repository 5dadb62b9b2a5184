import PyKMIP.Lib.Formats

/-!
# Readers that end

A reader with loops need not end.  A tracer gives each of its loops a number of
iterations that it may make, and has no outcome when one of them needs more.
It logs the iterations of its loops and what the readers of nested structures
can reach.  A tracer is sound when it ends wherever the input has fewer bytes
than it has fuel, and when its log accounts for the bytes of the input.
-/

namespace Traces

open Formats

/-- What a reader does to its buffers.

* `iteration`: the body of a loop has run; the bytes in its buffer before and
  after,
* `opened`: the contents of a structure are read next; the bytes that the
  structure declares and the bytes in their buffer,
* `closed`: the contents of a structure have been read and took so many bytes. -/
inductive Event (τ : Type) where
  | iteration (before after : Nat)
  | opened (tag : τ) (declared given : Nat)
  | closed (tag : τ) (declared taken : Nat)
deriving DecidableEq

structure Run (τ ε α : Type) where
  events : List (Event τ)
  outcome : Option (Except ε (α × List UInt8))

/-- No loop makes more iterations than there is fuel. -/
def Tracer (τ ε α : Type) := Nat → List UInt8 → Run τ ε α

variable {τ ε α β : Type}

section Tracers

def Run.andThen (run : Run τ ε α) (next : α → List UInt8 → Run τ ε β) :
    Run τ ε β :=
  match run.outcome with
  | some (.ok (value, rest)) =>
      let later := next value rest
      ⟨run.events ++ later.events, later.outcome⟩
  | some (.error exception) => ⟨run.events, some (.error exception)⟩
  | none => ⟨run.events, none⟩

/-- The contents of a structure are read from the buffer, and `after` is what
the structure leaves of its own buffer. -/
def Run.enclosed (tag : τ) (declared : Nat) (buffer : List UInt8)
    (after : List UInt8 → List UInt8) (contents : Run τ ε α) : Run τ ε α :=
  Run.andThen
    ⟨.opened tag declared buffer.length :: contents.events, contents.outcome⟩
    fun value left =>
      ⟨[.closed tag declared (buffer.length - left.length)],
        some (.ok (value, after left))⟩

namespace Tracer

instance : Monad (Tracer τ ε) where
  pure value := fun _ input => ⟨[], some (.ok (value, input))⟩
  bind tracer next := fun fuel input =>
    (tracer fuel input).andThen fun value rest => next value fuel rest

def throw (exception : ε) : Tracer τ ε α :=
  fun _ _ => ⟨[], some (.error exception)⟩

/-- The bytes of the buffer, which stay there. -/
def look : Tracer τ ε (List UInt8) := fun _ input => ⟨[], some (.ok (input, input))⟩

/-- A reader without loops and nested structures. -/
def ofDecoder (decoder : Decoder ε α) : Tracer τ ε α :=
  fun _ input => ⟨[], some (decoder.run input)⟩

def mapError {ε' : Type} (change : ε → ε') (tracer : Tracer τ ε α) :
    Tracer τ ε' α := fun fuel input =>
  let run := tracer fuel input
  ⟨run.events, run.outcome.map (·.mapError change)⟩

/-- The body of a loop. -/
def counted (body : Tracer τ ε α) : Tracer τ ε α := fun fuel input =>
  (body fuel input).andThen fun value rest =>
    ⟨[.iteration input.length rest.length], some (.ok (value, rest))⟩

/-- The loop over a range. -/
def times (body : Tracer τ ε α) : Nat → Tracer τ ε (List α)
  | 0 => pure []
  | count + 1 => do
      let value ← body.counted
      let others ← body.times count
      return value :: others

/-- The iterations that a loop may make are counted down. -/
def loop (goes : List UInt8 → Bool) (body : Tracer τ ε α) :
    Nat → Tracer τ ε (List α)
  | 0 => fun _ _ => ⟨[], none⟩
  | turns + 1 => do
      let input ← look
      if goes input then
        let value ← body.counted
        let others ← body.loop goes turns
        return value :: others
      else return []

/-- The loop that goes on as long as its buffer satisfies a condition. -/
def whileNext (goes : List UInt8 → Bool) (body : Tracer τ ε α) :
    Tracer τ ε (List α) := fun fuel input => body.loop goes fuel fuel input

/-- After a header the contents are read from a local buffer of the declared
length. -/
def slice (tag : τ) (header : Decoder ε Nat) (contents : Tracer τ ε α) :
    Tracer τ ε α := fun fuel input =>
  (ofDecoder header fuel input).andThen fun declared rest =>
    let buffer := rest.take declared
    (contents fuel buffer).enclosed tag declared buffer fun _ =>
      rest.drop declared

/-- After a header the contents are read from the same buffer. -/
def inPlace (tag : τ) (header : Decoder ε Nat) (contents : Tracer τ ε α) :
    Tracer τ ε α := fun fuel input =>
  (ofDecoder header fuel input).andThen fun declared rest =>
    (contents fuel rest).enclosed tag declared rest id

end Tracer

end Tracers

section Soundness

/-- The bytes that the iterations of a log account for. -/
def weight (unit : Nat) : List (Event τ) → Nat
  | [] => 0
  | .iteration .. :: events => weight unit events + unit
  | _ :: events => weight unit events

def iterations (events : List (Event τ)) : Nat := weight 1 events

@[simp] theorem weight_append (unit : Nat) (first second : List (Event τ)) :
    weight unit (first ++ second) = weight unit first + weight unit second := by
  induction first with
  | nil => exact (Nat.zero_add _).symm
  | cons event events ih =>
      cases event with
      | iteration before after =>
          simp only [List.cons_append, weight, ih]
          omega
      | opened tag declared given => exact ih
      | closed tag declared taken => exact ih

theorem weight_eq (unit : Nat) (events : List (Event τ)) :
    weight unit events = unit * iterations events := by
  unfold iterations
  induction events with
  | nil => rfl
  | cons event events ih =>
      cases event with
      | iteration before after =>
          simp only [weight, ih, Nat.mul_succ]
      | opened tag declared given => exact ih
      | closed tag declared taken => exact ih

/-- Iterations take at least a unit, and the contents of a structure stay within
what it declares. -/
def Event.Fair (unit : Nat) : Event τ → Prop
  | .iteration before after => after + unit ≤ before
  | .opened _ declared given => given ≤ declared
  | .closed _ declared taken => taken ≤ declared

/-- The event is about the contents of a structure with the tag. -/
def Event.IsOf (tag : τ) : Event τ → Prop
  | .iteration .. => False
  | .opened other .. => other = tag
  | .closed other .. => other = tag

/-- The run ends, its log accounts for the bytes of the input, and a value takes
at least `cost` bytes besides those of the iterations. -/
structure Run.Sound (unit cost : Nat) (input : List UInt8)
    (run : Run τ ε α) : Prop where
  ends : run.outcome ≠ none
  takes : ∀ {value rest}, run.outcome = some (.ok (value, rest)) →
    weight unit run.events + cost + rest.length ≤ input.length
  bounded : weight unit run.events ≤ input.length
  fair : ∀ event ∈ run.events, event.Fair unit

/-- Enough fuel gives a sound run, and always the same. -/
structure Tracer.Sound (unit cost : Nat) (tracer : Tracer τ ε α) : Prop where
  sound : ∀ fuel input, input.length < fuel →
    (tracer fuel input).Sound unit cost input
  settled : ∀ fuel other input, input.length < fuel → input.length < other →
    tracer fuel input = tracer other input

/-- The decoder takes at least `cost` bytes. -/
def Takes (cost : Nat) (decoder : Decoder ε α) : Prop :=
  ∀ input value rest, decoder.run input = .ok (value, rest) →
    cost + rest.length ≤ input.length

/-- A decoder for the bytes that a header declares. -/
def within (header : Decoder ε Nat) (decoder : Decoder ε α) : Decoder ε α := do
  let declared ← header
  let buffer ← take declared
  match decoder.run buffer with
  | .ok (value, _) => return value
  | .error exception => throw exception

/-- With enough fuel the tracer has the outcome of the decoder. -/
def Tracer.Erases (tracer : Tracer τ ε α) (decoder : Decoder ε α) : Prop :=
  ∀ fuel input, input.length < fuel →
    (tracer fuel input).outcome = some (decoder.run input)

section Decoders

theorem Takes.pure (value : α) : Takes 0 (pure value : Decoder ε α) := by
  intro input result rest ran
  cases ran
  exact Nat.le_of_eq (Nat.zero_add _)

theorem Takes.throw (cost : Nat) (exception : ε) :
    Takes cost (throw exception : Decoder ε α) := nofun

theorem Takes.bind
    {first second : Nat} {decoder : Decoder ε α} {later : α → Decoder ε β}
    (takes : Takes first decoder) (others : ∀ value, Takes second (later value)) :
    Takes (first + second) (decoder >>= later) := by
  intro input result rest ran
  obtain ⟨value, between, before, after⟩ := run_bind_eq_ok ran
  have taken := takes input value between before
  have takenToo := others value between result rest after
  omega

/-- What follows takes nothing more. -/
theorem Takes.first
    {cost : Nat} {decoder : Decoder ε α} {later : α → Decoder ε β}
    (takes : Takes cost decoder) (others : ∀ value, Takes 0 (later value)) :
    Takes cost (decoder >>= later) :=
  takes.bind others

theorem Takes.take (count : Nat) :
    Takes 0 (take count : Decoder ε (List UInt8)) := by
  intro input value rest ran
  cases ran
  rw [List.length_drop]
  omega

theorem Takes.ite
    {cost : Nat} {condition : Prop} [Decidable condition]
    {first second : Decoder ε α} (takes : Takes cost first)
    (takesToo : Takes cost second) :
    Takes cost (if condition then first else second) := by
  split
  · exact takes
  · exact takesToo

/-- What is read in full takes its bytes. -/
theorem Takes.full
    {count : Nat} {later : List UInt8 → Decoder ε β} (exception : ε)
    (others : ∀ bytes, Takes 0 (later bytes))
    (short : ∀ bytes rest, bytes.length ≠ count →
      (later bytes).run rest = .error exception) :
    Takes count (Formats.take count >>= later) := by
  intro input result rest ran
  change (later (input.take count)).run (input.drop count) = _ at ran
  by_cases full : (input.take count).length = count
  · have taken := others _ _ _ _ ran
    have lengths := congrArg List.length (List.take_append_drop count input)
    rw [List.length_append] at lengths
    omega
  · rw [short _ _ full] at ran
    cases ran

theorem Takes.mapError
    {cost : Nat} {decoder : Decoder ε α} (takes : Takes cost decoder)
    {ε' : Type} (change : ε → ε') :
    Takes cost (fun input => (decoder.run input).mapError change :
      Decoder ε' α) := by
  intro input value rest ran
  change (decoder.run input).mapError change = _ at ran
  cases result : decoder.run input with
  | error exception =>
      rw [result] at ran
      cases ran
  | ok pair =>
      rw [result] at ran
      cases ran
      exact takes _ _ _ result

end Decoders

variable {unit cost : Nat}

theorem Run.Sound.andThen
    {run : Run τ ε α} {next : α → List UInt8 → Run τ ε β} {later : Nat}
    {input : List UInt8} (sound : run.Sound unit cost input)
    (others : ∀ {value rest}, run.outcome = some (.ok (value, rest)) →
      (next value rest).Sound unit later rest) :
    (run.andThen next).Sound unit (cost + later) input := by
  obtain ⟨events, outcome⟩ := run
  match outcome with
  | none => exact absurd rfl sound.ends
  | some (.error exception) =>
      exact ⟨by simp [Run.andThen], by simp [Run.andThen], sound.bounded,
        sound.fair⟩
  | some (.ok (value, rest)) =>
      have taken := sound.takes rfl
      have continued := others rfl
      dsimp only at taken
      refine ⟨continued.ends, ?_, ?_, ?_⟩
      · intro result left ran
        have further := continued.takes ran
        change weight unit (events ++ (next value rest).events) + _ + _ ≤ _
        rw [weight_append]
        omega
      · have further := continued.bounded
        change weight unit (events ++ (next value rest).events) ≤ _
        rw [weight_append]
        omega
      · intro event member
        rcases List.mem_append.mp member with first | second
        · exact sound.fair event first
        · exact continued.fair event second

theorem Run.Sound.andThen_free
    {run : Run τ ε α} {next : α → List UInt8 → Run τ ε β} {input : List UInt8}
    (sound : run.Sound unit cost input)
    (others : ∀ {value rest}, run.outcome = some (.ok (value, rest)) →
      (next value rest).Sound unit 0 rest) :
    (run.andThen next).Sound unit cost input :=
  sound.andThen others

theorem Run.andThen_congr
    {run : Run τ ε α} {next other : α → List UInt8 → Run τ ε β}
    (same : ∀ {value rest}, run.outcome = some (.ok (value, rest)) →
      next value rest = other value rest) :
    run.andThen next = run.andThen other := by
  obtain ⟨events, outcome⟩ := run
  match outcome with
  | none => rfl
  | some (.error exception) => rfl
  | some (.ok (value, rest)) =>
      unfold Run.andThen
      dsimp only
      rw [same rfl]

theorem Run.outcome_andThen
    (run : Run τ ε α) (next : α → List UInt8 → Run τ ε β) :
    (run.andThen next).outcome = match run.outcome with
      | some (.ok (value, rest)) => (next value rest).outcome
      | some (.error exception) => some (.error exception)
      | none => none := by
  obtain ⟨events, outcome⟩ := run
  match outcome with
  | none => rfl
  | some (.error exception) => rfl
  | some (.ok (value, rest)) => rfl

theorem Run.Sound.weaken
    {run : Run τ ε α} {input : List UInt8} (sound : run.Sound unit cost input)
    {less : Nat} (cheaper : less ≤ cost) : run.Sound unit less input where
  ends := sound.ends
  takes := by
    intro value rest ran
    have taken := sound.takes ran
    omega
  bounded := sound.bounded
  fair := sound.fair

/-- What is left is no longer than the input. -/
theorem Run.Sound.left_le
    {run : Run τ ε α} {input rest : List UInt8} {value : α}
    (sound : run.Sound unit cost input)
    (ran : run.outcome = some (.ok (value, rest))) :
    cost + rest.length ≤ input.length := by
  have taken := sound.takes ran
  omega

section Enclosed

variable {tag : τ} {declared : Nat} {buffer : List UInt8}
  {after : List UInt8 → List UInt8} {contents : Run τ ε α}

theorem Run.outcome_enclosed :
    (contents.enclosed tag declared buffer after).outcome =
      contents.outcome.map fun outcome =>
        outcome.map fun (value, left) => (value, after left) := by
  obtain ⟨events, outcome⟩ := contents
  match outcome with
  | none => rfl
  | some (.error exception) => rfl
  | some (.ok (value, left)) => rfl

theorem Run.outcome_enclosed_eq_none :
    (contents.enclosed tag declared buffer after).outcome = none ↔
      contents.outcome = none := by
  rw [outcome_enclosed, Option.map_eq_none_iff]

theorem Run.weight_enclosed (unit : Nat) :
    weight unit (contents.enclosed tag declared buffer after).events =
      weight unit contents.events := by
  obtain ⟨events, outcome⟩ := contents
  match outcome with
  | none => rfl
  | some (.error exception) => rfl
  | some (.ok (value, left)) => exact weight_append unit (.opened .. :: events) _

/-- The structure adds two events at most, and they are fair if the buffer has no
more than what it declares. -/
theorem Run.mem_enclosed (unit : Nat) {event : Event τ}
    (member : event ∈ (contents.enclosed tag declared buffer after).events) :
    event ∈ contents.events ∨
      event.IsOf tag ∧ (buffer.length ≤ declared → event.Fair unit) := by
  obtain ⟨events, outcome⟩ := contents
  have first : ∀ event ∈ Event.opened tag declared buffer.length :: events,
      event ∈ events ∨
        event.IsOf tag ∧ (buffer.length ≤ declared → event.Fair unit) :=
    List.forall_mem_cons.mpr
      ⟨.inr ⟨rfl, id⟩, fun event nested => .inl nested⟩
  match outcome with
  | none => exact first event member
  | some (.error exception) => exact first event member
  | some (.ok (value, left)) =>
      rcases List.mem_append.mp member with nested | last
      · exact first event nested
      · rw [List.mem_singleton.mp last]
        exact .inr ⟨rfl, fun within => Nat.le_trans (Nat.sub_le ..) within⟩

theorem Run.Sound.enclosed {whole : List UInt8}
    (sound : contents.Sound unit 0 buffer) (within : buffer.length ≤ declared)
    (leaves : ∀ left, left.length ≤ buffer.length →
      buffer.length + (after left).length ≤ whole.length)
    (inside : buffer.length ≤ whole.length) :
    (contents.enclosed tag declared buffer after).Sound unit 0 whole where
  ends := mt Run.outcome_enclosed_eq_none.mp sound.ends
  takes := by
    intro value rest ran
    rw [Run.outcome_enclosed] at ran
    obtain ⟨outcome, before, changed⟩ := Option.map_eq_some_iff.mp ran
    cases outcome with
    | error exception => cases changed
    | ok pair =>
        cases changed
        have taken := sound.takes before
        have shorter := sound.left_le before
        have room := leaves pair.2 (by omega)
        rw [Run.weight_enclosed]
        omega
  bounded := by
    have bounded := sound.bounded
    rw [Run.weight_enclosed]
    omega
  fair := by
    intro event member
    rcases Run.mem_enclosed unit member with nested | own
    · exact sound.fair event nested
    · exact own.2 within

end Enclosed

namespace Tracer

theorem Sound.weaken
    {tracer : Tracer τ ε α} (sound : tracer.Sound unit cost) {less : Nat}
    (cheaper : less ≤ cost) : tracer.Sound unit less :=
  ⟨fun fuel input enough => (sound.sound fuel input enough).weaken cheaper,
    sound.settled⟩

theorem Sound.pure (value : α) :
    (pure value : Tracer τ ε α).Sound unit 0 where
  sound := by
    intro fuel input enough
    refine ⟨nofun, ?_, Nat.zero_le _, nofun⟩
    intro result rest ran
    cases ran
    exact Nat.le_of_eq (Nat.zero_add _)
  settled _ _ _ _ _ := rfl

theorem Sound.bind
    {tracer : Tracer τ ε α} {next : α → Tracer τ ε β} {later : Nat}
    (sound : tracer.Sound unit cost)
    (others : ∀ value, (next value).Sound unit later) :
    (tracer >>= next).Sound unit (cost + later) where
  sound := by
    intro fuel input enough
    refine (sound.sound fuel input enough).andThen ?_
    intro value rest ran
    have shorter := (sound.sound fuel input enough).left_le ran
    exact (others value).sound fuel rest (by omega)
  settled := by
    intro fuel other input enough enoughToo
    change Run.andThen _ _ = Run.andThen _ _
    rw [sound.settled fuel other input enough enoughToo]
    refine Run.andThen_congr ?_
    intro value rest ran
    have shorter := (sound.sound other input enoughToo).left_le ran
    exact (others value).settled fuel other rest (by omega) (by omega)

theorem Sound.throw (exception : ε) :
    (throw exception : Tracer τ ε α).Sound unit cost where
  sound _ _ _ := ⟨nofun, nofun, Nat.zero_le _, nofun⟩
  settled _ _ _ _ _ := rfl

theorem Sound.look : (look : Tracer τ ε (List UInt8)).Sound unit 0 where
  sound := by
    intro fuel input enough
    refine ⟨nofun, ?_, Nat.zero_le _, nofun⟩
    intro result rest ran
    cases ran
    exact Nat.le_of_eq (Nat.zero_add _)
  settled _ _ _ _ _ := rfl

theorem Sound.ofDecoder
    {decoder : Decoder ε α} (takes : Takes cost decoder) :
    (ofDecoder decoder : Tracer τ ε α).Sound unit cost where
  sound := by
    intro fuel input enough
    refine ⟨nofun, ?_, Nat.zero_le _, nofun⟩
    intro value rest ran
    have taken := takes _ _ _ (Option.some.inj ran)
    change 0 + cost + rest.length ≤ input.length
    omega
  settled _ _ _ _ _ := rfl

theorem Sound.mapError
    {ε' : Type} {tracer : Tracer τ ε α} (sound : tracer.Sound unit cost)
    (change : ε → ε') : (tracer.mapError change).Sound unit cost where
  sound := by
    intro fuel input enough
    have ran := sound.sound fuel input enough
    refine ⟨?_, ?_, ran.bounded, ran.fair⟩
    · intro none
      exact ran.ends (Option.map_eq_none_iff.mp none)
    · intro value rest changed
      obtain ⟨outcome, before, after⟩ := Option.map_eq_some_iff.mp changed
      cases outcome with
      | error exception => cases after
      | ok result =>
          cases after
          exact ran.takes before
  settled := by
    intro fuel other input enough enoughToo
    unfold Tracer.mapError
    rw [sound.settled fuel other input enough enoughToo]

/-- The body takes a unit, which the iteration accounts for. -/
theorem Sound.counted
    {body : Tracer τ ε α} (sound : body.Sound unit unit) :
    body.counted.Sound unit 0 where
  sound := by
    intro fuel input enough
    have ran := sound.sound fuel input enough
    unfold Tracer.counted
    generalize body fuel input = run at ran
    obtain ⟨events, outcome⟩ := run
    match outcome with
    | none => exact absurd rfl ran.ends
    | some (.error exception) =>
        exact ⟨by simp [Run.andThen], by simp [Run.andThen], ran.bounded,
          ran.fair⟩
    | some (.ok (value, rest)) =>
        have taken := ran.takes rfl
        dsimp only at taken
        have weighs : weight unit
            (events ++ [.iteration input.length rest.length]) =
            weight unit events + unit := by
          rw [weight_append]
          simp [weight]
        refine ⟨nofun, ?_, ?_, ?_⟩
        · intro result left ended
          cases ended
          change weight unit (events ++ _) + _ + _ ≤ _
          rw [weighs]
          omega
        · change weight unit (events ++ _) ≤ _
          rw [weighs]
          omega
        · intro event member
          rcases List.mem_append.mp member with first | last
          · exact ran.fair event first
          · rw [List.mem_singleton.mp last]
            change rest.length + unit ≤ input.length
            omega
  settled := by
    intro fuel other input enough enoughToo
    unfold Tracer.counted
    rw [sound.settled fuel other input enough enoughToo]

theorem outcome_counted (body : Tracer τ ε α) (fuel : Nat) (input : List UInt8) :
    (body.counted fuel input).outcome = (body fuel input).outcome := by
  unfold counted
  obtain ⟨events, outcome⟩ := body fuel input
  match outcome with
  | none => rfl
  | some (.error exception) => rfl
  | some (.ok (value, rest)) => rfl

/-- An iteration that does not raise leaves a shorter buffer. -/
theorem Sound.counted_takes
    {body : Tracer τ ε α} (sound : body.Sound unit unit) {fuel : Nat}
    {input rest : List UInt8} (enough : input.length < fuel) {value : α}
    (ran : (body.counted fuel input).outcome = some (.ok (value, rest))) :
    unit + rest.length ≤ input.length := by
  rw [outcome_counted] at ran
  exact (sound.sound fuel input enough).left_le ran

theorem Sound.times
    {body : Tracer τ ε α} (sound : body.Sound unit unit) (count : Nat) :
    (body.times count).Sound unit 0 := by
  induction count with
  | zero => exact .pure []
  | succ count ih =>
      exact sound.counted.bind fun value => ih.bind fun others => .pure _

theorem loop_stops
    {body : Tracer τ ε α} {goes : List UInt8 → Bool} {input : List UInt8}
    (stops : goes input = false) (turns fuel : Nat) :
    body.loop goes (turns + 1) fuel input = ⟨[], some (.ok ([], input))⟩ := by
  have unfolded : body.loop goes (turns + 1) fuel input =
      (if goes input then
        body.counted >>= fun value => body.loop goes turns >>= fun others =>
          Pure.pure (value :: others)
      else Pure.pure [] : Tracer τ ε (List α)) fuel input := rfl
  rw [unfolded, stops]
  rfl

theorem loop_goes
    {body : Tracer τ ε α} {goes : List UInt8 → Bool} {input : List UInt8}
    (continues : goes input = true) (turns fuel : Nat) :
    body.loop goes (turns + 1) fuel input =
      (body.counted fuel input).andThen fun value rest =>
        (body.loop goes turns fuel rest).andThen fun others left =>
          ⟨[], some (.ok (value :: others, left))⟩ := by
  have unfolded : body.loop goes (turns + 1) fuel input =
      (if goes input then
        body.counted >>= fun value => body.loop goes turns >>= fun others =>
          Pure.pure (value :: others)
      else Pure.pure [] : Tracer τ ε (List α)) fuel input := rfl
  rw [unfolded, continues]
  rfl

/-- As many turns as there are bytes, and one more, are enough: each of them but
the last takes a byte. -/
theorem Sound.loop
    {body : Tracer τ ε α} (sound : body.Sound unit unit) (some : 0 < unit)
    (goes : List UInt8 → Bool) {turns fuel : Nat} {input : List UInt8}
    (left : input.length < turns) (enough : input.length < fuel) :
    (body.loop goes turns fuel input).Sound unit 0 input := by
  induction turns generalizing input with
  | zero => exact absurd left (Nat.not_lt_zero _)
  | succ turns ih =>
      cases continues : goes input with
      | false =>
          rw [loop_stops continues]
          exact (Sound.pure []).sound fuel input enough
      | true =>
          rw [loop_goes continues]
          refine (sound.counted.sound fuel input enough).andThen_free ?_
          intro value rest ran
          have shorter := sound.counted_takes enough ran
          have others := ih (show rest.length < turns by omega) (by omega)
          refine others.andThen_free ?_
          intro values left ended
          have shortest := others.left_le ended
          exact (Sound.pure (value :: values)).sound fuel left (by omega)

theorem Sound.settled_loop
    {body : Tracer τ ε α} (sound : body.Sound unit unit) (some : 0 < unit)
    (goes : List UInt8 → Bool) {turns others fuel other : Nat}
    {input : List UInt8} (left : input.length < turns)
    (leftToo : input.length < others) (enough : input.length < fuel)
    (enoughToo : input.length < other) :
    body.loop goes turns fuel input = body.loop goes others other input := by
  induction turns generalizing others input with
  | zero => exact absurd left (Nat.not_lt_zero _)
  | succ turns ih =>
      cases others with
      | zero => exact absurd leftToo (Nat.not_lt_zero _)
      | succ others =>
          cases continues : goes input with
          | false => rw [loop_stops continues, loop_stops continues]
          | true =>
              rw [loop_goes continues, loop_goes continues,
                sound.counted.settled fuel other input enough enoughToo]
              refine Run.andThen_congr ?_
              intro value rest ran
              have shorter := sound.counted_takes enoughToo ran
              rw [ih (show rest.length < turns by omega)
                (show rest.length < others by omega) (by omega) (by omega)]

theorem Sound.whileNext
    {body : Tracer τ ε α} (sound : body.Sound unit unit) (some : 0 < unit)
    (goes : List UInt8 → Bool) : (body.whileNext goes).Sound unit 0 where
  sound _ _ enough := sound.loop some goes enough enough
  settled _ _ _ enough enoughToo :=
    sound.settled_loop some goes enough enoughToo enough enoughToo

/-- The contents have no more than the local buffer, and the header takes a
unit. -/
theorem Sound.slice
    {header : Decoder ε Nat} {contents : Tracer τ ε α}
    (takes : Takes unit header) (sound : contents.Sound unit 0) (tag : τ) :
    (contents.slice tag header).Sound unit unit where
  sound := by
    intro fuel input enough
    have read : (Tracer.ofDecoder header : Tracer τ ε Nat).Sound unit unit :=
      .ofDecoder takes
    refine (read.sound fuel input enough).andThen_free ?_
    intro declared rest ran
    have shorter := takes _ _ _ (Option.some.inj ran)
    have lengths := congrArg List.length (List.take_append_drop declared rest)
    rw [List.length_append] at lengths
    have within : (rest.take declared).length ≤ declared :=
      List.length_take_le ..
    exact (sound.sound fuel (rest.take declared) (by omega)).enclosed within
      (fun left shorter => by omega) (by omega)
  settled := by
    intro fuel other input enough enoughToo
    refine Run.andThen_congr ?_
    intro declared rest ran
    have shorter := takes _ _ _ (Option.some.inj ran)
    have within : (rest.take declared).length ≤ rest.length :=
      List.length_take_le' ..
    dsimp only
    rw [sound.settled fuel other _ (by omega) (by omega)]

theorem inPlace_raises
    {header : Decoder ε Nat} {input : List UInt8} {exception : ε}
    (raises : header.run input = .error exception) (tag : τ)
    (contents : Tracer τ ε α) (fuel : Nat) :
    contents.inPlace tag header fuel input =
      ⟨[], some (.error exception)⟩ := by
  unfold inPlace ofDecoder
  rw [raises]
  rfl

theorem inPlace_reads
    {header : Decoder ε Nat} {input rest : List UInt8} {declared : Nat}
    (reads : header.run input = .ok (declared, rest)) (tag : τ)
    (contents : Tracer τ ε α) (fuel : Nat) :
    contents.inPlace tag header fuel input =
      (contents fuel rest).enclosed tag declared rest id := by
  unfold inPlace ofDecoder
  rw [reads]
  rfl

/-- The contents may have more than what the header declares, but the contents
of the structures in them do not. -/
structure InPlace (unit : Nat) (tag : τ) (input : List UInt8)
    (run : Run τ ε α) : Prop where
  ends : run.outcome ≠ none
  bounded : weight unit run.events ≤ input.length
  fair : ∀ event ∈ run.events, event.Fair unit ∨ event.IsOf tag

variable {header : Decoder ε Nat} {contents : Tracer τ ε α}

theorem Sound.inPlace
    (takes : Takes unit header) (sound : contents.Sound unit 0) (tag : τ)
    {fuel : Nat} {input : List UInt8} (enough : input.length < fuel) :
    InPlace unit tag input (contents.inPlace tag header fuel input) := by
  cases result : header.run input with
  | error exception =>
      rw [inPlace_raises result]
      exact ⟨nofun, Nat.zero_le _, nofun⟩
  | ok pair =>
      obtain ⟨declared, rest⟩ := pair
      have shorter := takes _ _ _ result
      have inner := sound.sound fuel rest (by omega)
      rw [inPlace_reads result]
      refine ⟨?_, ?_, ?_⟩
      · rw [Ne, Run.outcome_enclosed_eq_none]
        exact inner.ends
      · have bounded := inner.bounded
        rw [Run.weight_enclosed]
        omega
      · intro event member
        rcases Run.mem_enclosed unit member with nested | own
        · exact .inl (inner.fair event nested)
        · exact .inr own.1

/-- The contents have no more than what the header declares if there is no
more. -/
theorem Sound.inPlace_fair
    (takes : Takes unit header) (sound : contents.Sound unit 0) (tag : τ)
    {fuel : Nat} {input : List UInt8} (enough : input.length < fuel)
    (cut : ∀ declared rest, header.run input = .ok (declared, rest) →
      rest.length ≤ declared) :
    ∀ event ∈ (contents.inPlace tag header fuel input).events,
      event.Fair unit := by
  intro event member
  cases result : header.run input with
  | error exception =>
      rw [inPlace_raises result] at member
      cases member
  | ok pair =>
      obtain ⟨declared, rest⟩ := pair
      have shorter := takes _ _ _ result
      rw [inPlace_reads result] at member
      rcases Run.mem_enclosed unit member with nested | own
      · exact (sound.sound fuel rest (by omega)).fair event nested
      · exact own.2 (cut declared rest result)

theorem Sound.settled_inPlace
    (takes : Takes unit header) (sound : contents.Sound unit 0) (tag : τ)
    {fuel other : Nat} {input : List UInt8} (enough : input.length < fuel)
    (enoughToo : input.length < other) :
    contents.inPlace tag header fuel input =
      contents.inPlace tag header other input := by
  refine Run.andThen_congr ?_
  intro declared rest ran
  have shorter := takes _ _ _ (Option.some.inj ran)
  rw [sound.settled fuel other rest (by omega) (by omega)]

end Tracer

end Soundness

section Erasure

variable {unit cost : Nat}

namespace Tracer

theorem Erases.pure (value : α) :
    (pure value : Tracer τ ε α).Erases (pure value) := fun _ _ _ => rfl

theorem Erases.throw (exception : ε) :
    (throw exception : Tracer τ ε α).Erases (MonadExcept.throw exception) :=
  fun _ _ _ => rfl

theorem Erases.look : (look : Tracer τ ε (List UInt8)).Erases get := fun _ _ _ => rfl

theorem Erases.ofDecoder (decoder : Decoder ε α) :
    (ofDecoder decoder : Tracer τ ε α).Erases decoder := fun _ _ _ => rfl

theorem Erases.bind
    {tracer : Tracer τ ε α} {decoder : Decoder ε α} {next : α → Tracer τ ε β}
    {later : α → Decoder ε β} (sound : tracer.Sound unit cost)
    (erases : tracer.Erases decoder)
    (others : ∀ value, (next value).Erases (later value)) :
    (tracer >>= next).Erases (decoder >>= later) := by
  intro fuel input enough
  have ran := erases fuel input enough
  have ended := sound.sound fuel input enough
  change ((tracer fuel input).andThen _).outcome = some ((decoder.run input) >>= _)
  generalize tracer fuel input = run at ran ended
  obtain ⟨events, outcome⟩ := run
  cases ran
  cases result : decoder.run input with
  | error exception =>
      rfl
  | ok pair =>
      obtain ⟨value, rest⟩ := pair
      have shorter := ended.left_le (congrArg some result)
      exact others value fuel rest (by omega)

theorem Erases.counted
    {body : Tracer τ ε α} {decoder : Decoder ε α} (erases : body.Erases decoder) :
    body.counted.Erases decoder := by
  intro fuel input enough
  rw [outcome_counted, erases fuel input enough]

theorem Erases.mapError
    {ε' : Type} {tracer : Tracer τ ε α} {decoder : Decoder ε α}
    (erases : tracer.Erases decoder) (change : ε → ε') :
    (tracer.mapError change).Erases fun input =>
      (decoder.run input).mapError change := by
  intro fuel input enough
  change Option.map _ (tracer fuel input).outcome = _
  rw [erases fuel input enough]
  rfl

/-- The contents are decoded from a local buffer. -/
theorem Erases.slice
    {header : Decoder ε Nat} {contents : Tracer τ ε α} {decoder : Decoder ε α}
    (takes : Takes unit header) (erases : contents.Erases decoder) (tag : τ) :
    (contents.slice tag header).Erases (within header decoder) := by
  intro fuel input enough
  have unfolded : (contents.slice tag header fuel input).outcome =
      (Run.andThen ⟨[], some (header.run input)⟩ fun declared rest =>
        Run.andThen ⟨.opened tag declared (rest.take declared).length ::
            (contents fuel (rest.take declared)).events,
            (contents fuel (rest.take declared)).outcome⟩
          fun value left => ⟨[.closed tag declared
            ((rest.take declared).length - left.length)],
            some (.ok (value, rest.drop declared))⟩).outcome := rfl
  rw [unfolded]
  unfold within
  rw [StateT.run_bind]
  cases result : header.run input with
  | error exception => rfl
  | ok pair =>
      obtain ⟨declared, rest⟩ := pair
      have shorter := takes _ _ _ result
      have within : (rest.take declared).length ≤ rest.length :=
        List.length_take_le' ..
      have ran := erases fuel (rest.take declared) (by omega)
      change _ = some (StateT.run (match decoder.run (rest.take declared) with
        | .ok (value, _) => Pure.pure value
        | .error exception => MonadExcept.throw exception) (rest.drop declared))
      rw [Run.outcome_andThen]
      dsimp only
      rw [Run.outcome_andThen, ran]
      cases decoder.run (rest.take declared) with
      | error exception => rfl
      | ok pair => rfl

/-- The fuel of a loop that decodes is of no account: every item takes a byte at
least. -/
theorem Erases.loop
    {body : Tracer τ ε α} {decoder : Decoder ε α} (sound : body.Sound unit unit)
    (some : 0 < unit) (erases : body.Erases decoder) {goes : List UInt8 → Bool}
    (ends : goes [] = false) {rounds : Nat → Decoder ε (List α)}
    (last : rounds 0 = Pure.pure [])
    (round : ∀ count input, (rounds (count + 1)).run input =
      if goes input then
        (decoder >>= fun value => rounds count >>= fun others =>
          Pure.pure (value :: others)).run input
      else .ok ([], input))
    {turns fuel count : Nat} {input : List UInt8} (left : input.length < turns)
    (enough : input.length < fuel) (counts : input.length ≤ count) :
    (body.loop goes turns fuel input).outcome =
      .some ((rounds count).run input) := by
  induction turns generalizing count input with
  | zero => exact absurd left (Nat.not_lt_zero _)
  | succ turns ih =>
      cases count with
      | zero =>
          obtain rfl := List.eq_nil_of_length_eq_zero (Nat.le_zero.mp counts)
          rw [loop_stops ends, last]
          rfl
      | succ count =>
          rw [round]
          cases continues : goes input with
          | false =>
              rw [loop_stops continues]
              rfl
          | true =>
              rw [loop_goes continues, if_pos rfl]
              change Run.outcome (Run.andThen _ _) =
                .some ((decoder.run input) >>= _)
              have ran := erases.counted fuel input enough
              have takes := fun value rest =>
                @Sound.counted_takes τ ε α unit body sound fuel input rest enough
                  value
              generalize body.counted fuel input = run at ran takes
              obtain ⟨events, outcome⟩ := run
              cases ran
              cases result : decoder.run input with
              | error exception => rfl
              | ok pair =>
                  obtain ⟨value, rest⟩ := pair
                  have shorter := takes value rest (congrArg Option.some result)
                  have others := ih (show rest.length < turns by omega)
                    (by omega) (show rest.length ≤ count by omega)
                  change ((body.loop goes turns fuel rest).andThen _).outcome =
                    .some (((rounds count).run rest) >>= _)
                  generalize body.loop goes turns fuel rest = later at others
                  obtain ⟨laterEvents, laterOutcome⟩ := later
                  cases others
                  cases (rounds count).run rest with
                  | error exception => rfl
                  | ok pair => rfl

end Tracer

end Erasure

section Readings

variable {unit cost : Nat}

/-- A tracer together with its soundness. -/
structure Reading (unit : Nat) (τ ε : Type) (cost : Nat) (α : Type) where
  tracer : Tracer τ ε α
  sound : tracer.Sound unit cost

namespace Reading

instance : Monad (Reading unit τ ε 0) where
  pure value := ⟨pure value, .pure value⟩
  bind reading next :=
    ⟨reading.tracer >>= fun value => (next value).tracer,
      reading.sound.bind fun value => (next value).sound⟩

def throw (exception : ε) : Reading unit τ ε cost α :=
  ⟨.throw exception, .throw exception⟩

def look : Reading unit τ ε 0 (List UInt8) := ⟨.look, .look⟩

def ofExcept : Except ε α → Reading unit τ ε 0 α
  | .ok value => pure value
  | .error exception => throw exception

def ofDecoder (decoder : Decoder ε α) (takes : Takes cost decoder) :
    Reading unit τ ε cost α := ⟨.ofDecoder decoder, .ofDecoder takes⟩

def weaken (reading : Reading unit τ ε cost α) : Reading unit τ ε 0 α :=
  ⟨reading.tracer, reading.sound.weaken (Nat.zero_le _)⟩

def mapError {ε' : Type} (change : ε → ε') (reading : Reading unit τ ε cost α) :
    Reading unit τ ε' cost α :=
  ⟨reading.tracer.mapError change, reading.sound.mapError change⟩

/-- What is read depends on something that costs nothing. -/
def after (first : Reading unit τ ε 0 α) (next : α → Reading unit τ ε cost β) :
    Reading unit τ ε cost β :=
  ⟨first.tracer >>= fun value => (next value).tracer, by
    have sound := first.sound.bind fun value => (next value).sound
    rwa [Nat.zero_add] at sound⟩

def map (change : α → β) (reading : Reading unit τ ε cost α) :
    Reading unit τ ε cost β :=
  ⟨reading.tracer >>= fun value => pure (change value),
    reading.sound.bind fun value => .pure (change value)⟩

/-- An item and something that costs nothing. -/
def followedBy (reading : Reading unit τ ε cost α)
    (next : α → Reading unit τ ε 0 β) : Reading unit τ ε cost β :=
  ⟨reading.tracer >>= fun value => (next value).tracer,
    reading.sound.bind fun value => (next value).sound⟩

def slice (tag : τ) (header : Decoder ε Nat) (takes : Takes unit header)
    (contents : Reading unit τ ε 0 α) : Reading unit τ ε unit α :=
  ⟨contents.tracer.slice tag header, contents.sound.slice takes tag⟩

def times (count : Nat) (body : Reading unit τ ε unit α) :
    Reading unit τ ε 0 (List α) :=
  ⟨body.tracer.times count, body.sound.times count⟩

def whileNext [NeZero unit] (goes : List UInt8 → Bool)
    (body : Reading unit τ ε unit α) : Reading unit τ ε 0 (List α) :=
  ⟨body.tracer.whileNext goes,
    body.sound.whileNext (Nat.pos_of_neZero unit) goes⟩

end Reading

/-- An item and the tag that it begins with. -/
structure Field (unit : Nat) (τ ε α : Type) where
  tag : τ
  reading : Reading unit τ ε unit α

namespace Field

def mapError {ε' : Type} (change : ε → ε') (field : Field unit τ ε α) :
    Field unit τ ε' α := ⟨field.tag, field.reading.mapError change⟩

def map (change : α → β) (field : Field unit τ ε α) : Field unit τ ε β :=
  ⟨field.tag, field.reading.map change⟩

/-- The item, whatever comes next. -/
def always (field : Field unit τ ε α) : Reading unit τ ε 0 α :=
  field.reading.weaken

variable [DecidableEq τ] (next : List UInt8 → Option τ)

/-- The item, if its tag comes next. -/
def optional (field : Field unit τ ε α) : Reading unit τ ε 0 (Option α) := do
  if next (← .look) = some field.tag then return some (← field.always)
  else return none

def demanded (missing : ε) (field : Field unit τ ε α) :
    Reading unit τ ε 0 α := do
  if next (← .look) = some field.tag then field.always else .throw missing

/-- The items, as long as their tag comes next. -/
def many [NeZero unit] (field : Field unit τ ε α) :
    Reading unit τ ε 0 (List α) :=
  field.reading.whileNext fun input => next input = some field.tag

end Field

end Readings

section Formats

variable {unit : Nat}

/-- A sound tracer of what a format decodes. -/
structure Traced (unit : Nat) (format : Format τ ε α) where
  tracer : Tracer τ ε α
  sound : tracer.Sound unit unit
  erases : tracer.Erases format.decode

def Traced.field {format : Format τ ε α} (traced : Traced unit format) :
    Field unit τ ε α := ⟨format.tag, traced.tracer, traced.sound⟩

/-- What a reading decodes. -/
def Reading.Erases {cost : Nat} (reading : Reading unit τ ε cost α)
    (decoder : Decoder ε α) : Prop := reading.tracer.Erases decoder

theorem Reading.Erases.bind
    {reading : Reading unit τ ε 0 α} {decoder : Decoder ε α}
    {next : α → Reading unit τ ε 0 β} {later : α → Decoder ε β}
    (erases : reading.Erases decoder)
    (others : ∀ value, (next value).Erases (later value)) :
    (reading >>= next).Erases (decoder >>= later) :=
  Tracer.Erases.bind reading.sound erases others

theorem Reading.Erases.after {cost : Nat}
    {reading : Reading unit τ ε 0 α} {decoder : Decoder ε α}
    {next : α → Reading unit τ ε cost β} {later : α → Decoder ε β}
    (erases : reading.Erases decoder)
    (others : ∀ value, (next value).Erases (later value)) :
    (reading.after next).Erases (decoder >>= later) :=
  Tracer.Erases.bind reading.sound erases others

theorem Reading.Erases.map {cost : Nat}
    {reading : Reading unit τ ε cost α} {decoder : Decoder ε α}
    (erases : reading.Erases decoder) (change : α → β) :
    (reading.map change).Erases (decoder >>= fun value => pure (change value)) :=
  Tracer.Erases.bind reading.sound erases fun value => .pure (change value)

theorem Reading.Erases.weaken {cost : Nat}
    {reading : Reading unit τ ε cost α} {decoder : Decoder ε α}
    (erases : reading.Erases decoder) : reading.weaken.Erases decoder := erases

theorem Reading.Erases.pure (value : α) :
    (pure value : Reading unit τ ε 0 α).Erases (pure value) :=
  Tracer.Erases.pure value

theorem Reading.Erases.throw {cost : Nat} (exception : ε) :
    (throw exception : Reading unit τ ε cost α).Erases
      (MonadExcept.throw exception) :=
  Tracer.Erases.throw exception

theorem Reading.Erases.look :
    (look : Reading unit τ ε 0 (List UInt8)).Erases get :=
  Tracer.Erases.look

theorem Traced.erases_always
    {format : Format τ ε α} (traced : Traced unit format) :
    traced.field.always.Erases format.decode := traced.erases

/-- Tracers of all fields of a structure. -/
inductive TracedFields (unit : Nat) {τ ε : Type} :
    {α : Type} → Fields τ ε α → Type 1 where
  | nil : TracedFields unit .nil
  | always {α β : Type} {format : Format τ ε α} {rest : Fields τ ε β}
      (traced : Traced unit format) (others : TracedFields unit rest) :
      TracedFields unit (.always format rest)
  | optional {α β : Type} {format : Format τ ε α} {rest : Fields τ ε β}
      (traced : Traced unit format) (others : TracedFields unit rest) :
      TracedFields unit (.optional format rest)
  | demanded {α β : Type} {format : Format τ ε α} {unset missing : ε}
      {rest : Fields τ ε β} (traced : Traced unit format)
      (others : TracedFields unit rest) :
      TracedFields unit (.demanded format unset missing rest)
  | many {α β : Type} {format : Format τ ε α} {rest : Fields τ ε β}
      (traced : Traced unit format) (others : TracedFields unit rest) :
      TracedFields unit (.many format rest)

variable [DecidableEq τ] (next : List UInt8 → Option τ)

def Traced.demanded {format : Format τ ε α} (traced : Traced unit format)
    (missing : ε) : Reading unit τ ε 0 (Option α) := do
  if next (← .look) = some format.tag then return some (← traced.field.always)
  else .throw missing

def TracedFields.reading [NeZero unit] : {α : Type} →
    {fields : Fields τ ε α} → TracedFields unit fields → Reading unit τ ε 0 α
  | _, _, .nil => pure ()
  | _, _, .always traced others => do
      return (← traced.field.always, ← others.reading)
  | _, _, .optional traced others => do
      return (← traced.field.optional next, ← others.reading)
  | _, .demanded _ _ missing _, .demanded traced others => do
      return (← traced.demanded next missing, ← others.reading)
  | _, _, .many traced others => do
      return (← traced.field.many next, ← others.reading)

variable {next}

theorem Traced.erases_optional
    {format : Format τ ε α} (traced : Traced unit format) :
    (traced.field.optional next).Erases (decodeIfNext next format) := by
  refine Reading.Erases.look.bind fun input => ?_
  change Reading.Erases (if next input = some format.tag then _ else _)
    (if next input = some format.tag then _ else _)
  split
  · exact traced.erases_always.bind fun value => .pure (some value)
  · exact .pure none

theorem Traced.erases_demanded
    {format : Format τ ε α} (traced : Traced unit format) (missing : ε) :
    (traced.demanded next missing).Erases
      (decodeDemanded next format missing) := by
  refine Reading.Erases.look.bind fun input => ?_
  split
  · exact traced.erases_always.bind fun value => .pure (some value)
  · exact .throw missing

theorem Traced.erases_many [NeZero unit]
    {format : Format τ ε α} (traced : Traced unit format)
    (ends : next [] = none) :
    (traced.field.many next).Erases (decodeMany next format) := by
  intro fuel input enough
  have stops : decide (next [] = some format.tag) = false := by
    rw [ends]
    rfl
  have round : ∀ count input, (decodeWhileNext next format (count + 1)).run
      input = if decide (next input = some format.tag) then
        (format.decode >>= fun value => decodeWhileNext next format count >>=
          fun others => pure (value :: others)).run input
      else .ok ([], input) := by
    intro count input
    rw [decodeWhileNext, run_get_bind]
    by_cases goes : next input = some format.tag
    · rw [if_pos goes, if_pos (decide_eq_true goes)]
    · rw [if_neg goes, decide_eq_false goes]
      rfl
  exact Tracer.Erases.loop traced.sound (Nat.pos_of_neZero unit) traced.erases
    stops rfl round enough enough (Nat.le_refl _)

/-- The reading of some fields decodes them. -/
theorem TracedFields.erases [NeZero unit] (ends : next [] = none) {α : Type}
    {fields : Fields τ ε α} (traced : TracedFields unit fields) :
    (traced.reading next).Erases (fields.decode next) := by
  induction traced with
  | nil => exact .pure ()
  | always traced others ih =>
      exact traced.erases_always.bind fun value =>
        ih.bind fun others => .pure (value, others)
  | optional traced others ih =>
      exact traced.erases_optional.bind fun value =>
        ih.bind fun others => .pure (value, others)
  | demanded traced others ih =>
      exact (traced.erases_demanded _).bind fun value =>
        ih.bind fun others => .pure (value, others)
  | many traced others ih =>
      exact (traced.erases_many ends).bind fun value =>
        ih.bind fun others => .pure (value, others)

end Formats

end Traces
