import PyKMIP.Lib.Traces

/-!
# Writers and the readers that undo them

A structure is written field by field.  A reading undoes the writers if it takes
what they have written and gives the values back.  Whether a field is there is
seen from what comes next, so each rule keeps the tags that can begin what
follows a field.
-/

namespace Traces

open Formats

variable {τ ε ε' α β γ : Type} {unit cost : Nat}

section Writers

/-- What the writers write, one after the other. -/
def writeAll : List (Except ε' (List UInt8)) → Except ε' (List UInt8)
  | [] => .ok []
  | writer :: writers => do return (← writer) ++ (← writeAll writers)

/-- What is written of a field that may be absent. -/
def writePresent (write : α → Except ε' (List UInt8)) :
    Option α → Except ε' (List UInt8)
  | some value => write value
  | none => .ok []

theorem writeAll_cons
    {writer : Except ε' (List UInt8)} {writers : List (Except ε' (List UInt8))}
    {bytes : List UInt8} (written : writeAll (writer :: writers) = .ok bytes) :
    ∃ first others, writer = .ok first ∧ writeAll writers = .ok others ∧
      bytes = first ++ others := by
  obtain ⟨first, writtenFirst, written⟩ := bind_eq_ok written
  obtain ⟨others, writtenOthers, written⟩ := bind_eq_ok written
  cases written
  exact ⟨first, others, writtenFirst, writtenOthers, rfl⟩

end Writers

section Formats

variable {first second : Format τ ε α}

theorem encodeMany_congr {values : List α}
    (same : ∀ value ∈ values, first.encode value = second.encode value) :
    encodeMany first values = encodeMany second values := by
  induction values with
  | nil => rfl
  | cons value values ih =>
      unfold encodeMany
      rw [same value List.mem_cons_self,
        ih fun other member => same other (List.mem_cons_of_mem _ member)]

/-- Only the tag and the decoder of a format matter to its decoding. -/
theorem decodeMany_congr [DecidableEq τ] {next : List UInt8 → Option τ}
    (sameTag : first.tag = second.tag) (same : first.decode = second.decode) :
    decodeMany next first = decodeMany next second := by
  have loops : ∀ fuel, decodeWhileNext next first fuel =
      decodeWhileNext next second fuel := by
    intro fuel
    induction fuel with
    | zero => rfl
    | succ fuel ih =>
        unfold decodeWhileNext
        rw [ih, sameTag, same]
  unfold decodeMany
  simp only [loops]

end Formats

section Readings

/-- The reading takes exactly the bytes, whatever follows them. -/
def Reading.Reads (reading : Reading unit τ ε cost α) (bytes : List UInt8)
    (value : α) : Prop :=
  ∀ rest fuel, (bytes ++ rest).length < fuel →
    (reading.tracer fuel (bytes ++ rest)).outcome = some (.ok (value, rest))

/-- The reading gives the value and leaves the rest of the input. -/
def Reading.Gives (reading : Reading unit τ ε cost α) (input : List UInt8)
    (value : α) (rest : List UInt8) : Prop :=
  ∀ fuel, input.length < fuel →
    (reading.tracer fuel input).outcome = some (.ok (value, rest))

theorem Reading.Gives.bind
    {reading : Reading unit τ ε 0 α} {later : α → Reading unit τ ε 0 β}
    {input middle rest : List UInt8} {value : α} {result : β}
    (gives : reading.Gives input value middle)
    (others : (later value).Gives middle result rest) :
    (reading >>= later).Gives input result rest := by
  intro fuel enough
  have shorter := (reading.sound.sound fuel input enough).left_le
    (gives fuel enough)
  change ((reading.tracer fuel input).andThen _).outcome = _
  rw [Run.outcome_andThen, gives fuel enough]
  exact others fuel (by omega)

theorem Reading.Gives.pure (value : α) (input : List UInt8) :
    (pure value : Reading unit τ ε 0 α).Gives input value input :=
  fun _ _ => rfl

theorem Reading.Gives.look (input : List UInt8) :
    (Reading.look : Reading unit τ ε 0 (List UInt8)).Gives input input input :=
  fun _ _ => rfl

theorem Reading.Gives.ofDecoder
    {decoder : Decoder ε α} {takes : Traces.Takes cost decoder}
    {input rest : List UInt8} {value : α}
    (ran : decoder.run input = .ok (value, rest)) :
    (Reading.ofDecoder decoder takes : Reading unit τ ε cost α).Gives input value
      rest :=
  fun _ _ => congrArg some ran

theorem Reading.Gives.mapError
    {reading : Reading unit τ ε cost α} {input rest : List UInt8} {value : α}
    (gives : reading.Gives input value rest) {ε'' : Type} (change : ε → ε'') :
    (reading.mapError change).Gives input value rest := by
  intro fuel enough
  change Option.map _ (reading.tracer fuel input).outcome = _
  rw [gives fuel enough]
  rfl

theorem Reading.Gives.map
    {reading : Reading unit τ ε cost α} {input rest : List UInt8} {value : α}
    (gives : reading.Gives input value rest) (change : α → β) :
    (reading.map change).Gives input (change value) rest := by
  intro fuel enough
  change ((reading.tracer fuel input).andThen _).outcome = _
  rw [Run.outcome_andThen, gives fuel enough]
  rfl

theorem Reading.Gives.after
    {first : Reading unit τ ε 0 α} {later : α → Reading unit τ ε cost β}
    {input middle rest : List UInt8} {value : α} {result : β}
    (gives : first.Gives input value middle)
    (others : (later value).Gives middle result rest) :
    (first.after later).Gives input result rest := by
  intro fuel enough
  have shorter := (first.sound.sound fuel input enough).left_le
    (gives fuel enough)
  change ((first.tracer fuel input).andThen _).outcome = _
  rw [Run.outcome_andThen, gives fuel enough]
  exact others fuel (by omega)

theorem Reading.Gives.followedBy
    {reading : Reading unit τ ε cost α} {later : α → Reading unit τ ε 0 β}
    {input middle rest : List UInt8} {value : α} {result : β}
    (gives : reading.Gives input value middle)
    (others : (later value).Gives middle result rest) :
    (reading.followedBy later).Gives input result rest := by
  intro fuel enough
  have shorter := (reading.sound.sound fuel input enough).left_le
    (gives fuel enough)
  change ((reading.tracer fuel input).andThen _).outcome = _
  rw [Run.outcome_andThen, gives fuel enough]
  exact others fuel (by omega)

/-- The contents of a structure are read from a local buffer. -/
theorem Reading.reads_slice
    {tag : τ} {header : Decoder ε Nat} (takes : Traces.Takes unit header)
    {contents : Reading unit τ ε 0 α} {front body left : List UInt8} {value : α}
    (heads : Formats.Reads header front body.length)
    (gives : contents.Gives body value left) :
    (Reading.slice tag header takes contents).Reads (front ++ body) value := by
  intro rest fuel enough
  rw [List.append_assoc] at enough ⊢
  have ran : (Tracer.ofDecoder header fuel (front ++ (body ++ rest)) :
      Run τ ε Nat).outcome = some (.ok (body.length, body ++ rest)) :=
    congrArg some (heads _)
  change (Run.andThen _ _).outcome = _
  rw [Run.outcome_andThen, ran]
  dsimp only
  simp only [List.length_append] at enough
  rw [Run.outcome_enclosed, List.take_left,
    gives fuel (by omega), List.drop_left]
  rfl

/-- What a decoder reads, the reading that erases to it reads. -/
theorem Reading.Erases.reads
    {reading : Reading unit τ ε cost α} {decoder : Decoder ε α}
    {bytes : List UInt8} {value : α} (erases : reading.Erases decoder)
    (reads : Formats.Reads decoder bytes value) : reading.Reads bytes value := by
  intro rest fuel enough
  rw [erases fuel _ enough, reads rest]

end Readings

section Fields

variable (next : List UInt8 → Option τ)

/-- What is written of the value shows the tag of the field and is read back. -/
def Field.Undoes (field : Field unit τ ε α)
    (write : α → Except ε' (List UInt8)) (value : α) : Prop :=
  ∀ bytes, write value = .ok bytes →
    (∀ rest, next (bytes ++ rest) = some field.tag) ∧
      field.reading.Reads bytes value

variable {next}

theorem Field.Undoes.mapError
    {field : Field unit τ ε α} {write : α → Except ε' (List UInt8)} {value : α}
    (undoes : field.Undoes next write value) {ε'' : Type} (change : ε → ε'') :
    (field.mapError change).Undoes next write value := by
  intro bytes written
  obtain ⟨shows, reads⟩ := undoes bytes written
  refine ⟨shows, fun rest fuel enough => ?_⟩
  have gives : field.reading.Gives (bytes ++ rest) value rest := reads rest
  exact gives.mapError change fuel enough

/-- What is written of one value is read back. -/
theorem Traced.undoes_of
    {format : Format τ ε α} (traced : Traced unit format) {value : α}
    (kept : ∀ {bytes}, format.encode value = .ok bytes →
      (∀ rest, next (bytes ++ rest) = some format.tag) ∧
        Formats.Reads format.decode bytes value) :
    traced.field.Undoes next format.encode value := by
  intro bytes written
  obtain ⟨shows, reads⟩ := kept written
  have erases : traced.field.reading.Erases format.decode := traced.erases
  exact ⟨shows, erases.reads reads⟩

/-- Another error of the writer. -/
theorem Field.Undoes.ofWritten
    {field : Field unit τ ε α} {write : α → Except ε' (List UInt8)} {value : α}
    (undoes : field.Undoes next write value) {ε'' : Type} (change : ε' → ε'') :
    field.Undoes next (fun value => (write value).mapError change) value := by
  intro bytes written
  change (write value).mapError change = _ at written
  cases result : write value with
  | error exception =>
      rw [result] at written
      cases written
  | ok other =>
      rw [result] at written
      cases written
      exact undoes bytes result

theorem Field.Undoes.congr
    {field : Field unit τ ε α} {write other : α → Except ε' (List UInt8)}
    {value : α} (undoes : field.Undoes next write value)
    (same : other value = write value) : field.Undoes next other value :=
  fun bytes written => undoes bytes (same ▸ written)

variable [DecidableEq τ]

theorem Field.gives_optional
    {field : Field unit τ ε α} {write : α → Except ε' (List UInt8)}
    {value : Option α}
    (undoes : ∀ present, value = some present →
      field.Undoes next write present)
    {bytes rest : List UInt8} (written : writePresent write value = .ok bytes)
    (absent : next rest ≠ some field.tag) :
    (field.optional next).Gives (bytes ++ rest) value rest := by
  refine Reading.Gives.bind (.look _) ?_
  cases value with
  | none =>
      cases written
      rw [List.nil_append, if_neg absent]
      exact .pure none rest
  | some value =>
      obtain ⟨shows, reads⟩ := undoes value rfl bytes written
      have gives : field.always.Gives (bytes ++ rest) value rest := reads rest
      rw [if_pos (shows rest)]
      exact gives.bind (.pure _ _)

theorem Field.gives_demanded
    {field : Field unit τ ε α} {write : α → Except ε' (List UInt8)} {value : α}
    (undoes : field.Undoes next write value) {bytes : List UInt8}
    (written : write value = .ok bytes) (rest : List UInt8) (missing : ε) :
    (field.demanded next missing).Gives (bytes ++ rest) value rest := by
  obtain ⟨shows, reads⟩ := undoes bytes written
  refine Reading.Gives.bind (.look _) ?_
  rw [if_pos (shows rest)]
  exact reads rest

/-- The induction is on the values; the iterations that are left are enough as
long as they are more than the bytes. -/
theorem Field.outcome_loop [NeZero unit]
    {field : Field unit τ ε α} {write : α → Except ε' (List UInt8)}
    {values : List α}
    (undoes : ∀ value ∈ values, field.Undoes next write value)
    {bytes rest : List UInt8}
    (written : writeAll (values.map write) = .ok bytes)
    (absent : next rest ≠ some field.tag) {turns fuel : Nat}
    (left : (bytes ++ rest).length < turns)
    (enough : (bytes ++ rest).length < fuel) :
    (field.reading.tracer.loop (fun input => next input = some field.tag) turns
      fuel (bytes ++ rest)).outcome = some (.ok (values, rest)) := by
  have some : 0 < unit := Nat.pos_of_neZero unit
  induction values generalizing bytes turns with
  | nil =>
      cases written
      obtain ⟨turns, rfl⟩ : ∃ less, turns = less + 1 := ⟨turns - 1, by omega⟩
      rw [List.nil_append, Tracer.loop_stops (decide_eq_false absent)]
  | cons value values ih =>
      obtain ⟨first, others, writtenFirst, writtenOthers, rfl⟩ :=
        writeAll_cons written
      obtain ⟨shows, reads⟩ := undoes value List.mem_cons_self first writtenFirst
      obtain ⟨turns, rfl⟩ : ∃ less, turns = less + 1 := ⟨turns - 1, by omega⟩
      rw [List.append_assoc] at left enough ⊢
      have ran := reads (others ++ rest) fuel enough
      rw [← Tracer.outcome_counted] at ran
      have shorter := field.reading.sound.counted_takes enough ran
      rw [Tracer.loop_goes (decide_eq_true (shows _)), Run.outcome_andThen, ran]
      dsimp only
      rw [Run.outcome_andThen, ih (fun other member => undoes other
        (List.mem_cons_of_mem _ member)) writtenOthers (by omega) (by omega)]

theorem Field.gives_many [NeZero unit]
    {field : Field unit τ ε α} {write : α → Except ε' (List UInt8)}
    {values : List α}
    (undoes : ∀ value ∈ values, field.Undoes next write value)
    {bytes rest : List UInt8}
    (written : writeAll (values.map write) = .ok bytes)
    (absent : next rest ≠ some field.tag) :
    (field.many next).Gives (bytes ++ rest) values rest :=
  fun _ enough => Field.outcome_loop undoes written absent enough enough

omit [DecidableEq τ] in
/-- The loop over a range reads as many items as have been written. -/
theorem Field.gives_times
    {field : Field unit τ ε α} {write : α → Except ε' (List UInt8)}
    {values : List α}
    (undoes : ∀ value ∈ values, field.Undoes next write value)
    {bytes : List UInt8} (written : writeAll (values.map write) = .ok bytes)
    (rest : List UInt8) :
    (Reading.times values.length field.reading).Gives (bytes ++ rest) values
      rest := by
  intro fuel enough
  change (field.reading.tracer.times values.length fuel _).outcome = _
  induction values generalizing bytes with
  | nil =>
      cases written
      rfl
  | cons value values ih =>
      obtain ⟨first, others, writtenFirst, writtenOthers, rfl⟩ :=
        writeAll_cons written
      obtain ⟨_, reads⟩ := undoes value List.mem_cons_self first writtenFirst
      rw [List.append_assoc] at enough ⊢
      have ran := reads (others ++ rest) fuel enough
      rw [← Tracer.outcome_counted] at ran
      have shorter := field.reading.sound.counted_takes enough ran
      have later := ih (fun other member => undoes other
        (List.mem_cons_of_mem _ member)) writtenOthers (by omega)
      change (Run.andThen _ _).outcome = _
      rw [Run.outcome_andThen, ran]
      change (Run.andThen _ _).outcome = _
      rw [Run.outcome_andThen, later]
      rfl

end Fields

section Structures

variable (next : List UInt8 → Option τ)

/-- The reading takes all that the writers write and gives the value; what they
write begins with one of the tags. -/
def Survives (tags : List τ) (writers : List (Except ε' (List UInt8)))
    (reading : Reading unit τ ε 0 α) (value : α) : Prop :=
  ∀ bytes, writeAll writers = .ok bytes →
    (∀ tag, next bytes = some tag → tag ∈ tags) ∧
      reading.Gives bytes value []

variable {next} {tags : List τ} {writers : List (Except ε' (List UInt8))}
  {field : Field unit τ ε α} {write : α → Except ε' (List UInt8)}
  {later : α → Reading unit τ ε 0 β} {result : β}

namespace Survives

/-- A reading that takes nothing at the end of the structure. -/
theorem ends {reading : Reading unit τ ε 0 α} {value : α}
    (nothing : next [] = none) (gives : reading.Gives [] value []) :
    Survives next [] ([] : List (Except ε' (List UInt8))) reading value := by
  intro bytes written
  cases written
  refine ⟨fun tag shown => ?_, gives⟩
  rw [nothing] at shown
  cases shown

theorem always {value : α} (undoes : field.Undoes next write value)
    (others : Survives next tags writers (later value) result) :
    Survives next [field.tag] (write value :: writers) (field.always >>= later)
      result := by
  intro bytes written
  obtain ⟨first, rest, writtenFirst, writtenRest, rfl⟩ := writeAll_cons written
  obtain ⟨shows, reads⟩ := undoes first writtenFirst
  have gives : field.always.Gives (first ++ rest) value rest := reads rest
  refine ⟨fun tag shown => ?_, gives.bind (others rest writtenRest).2⟩
  rw [shows] at shown
  cases shown
  exact List.mem_cons_self

/-- A reading that takes nothing and does not fail. -/
theorem returned {value : α} (others : Survives next tags writers (later value) result) :
    Survives next tags writers (pure value >>= later) result :=
  fun bytes written => ⟨(others bytes written).1,
    (Reading.Gives.pure value bytes).bind (others bytes written).2⟩

/-- Both the writer and the reader ask for the same condition. -/
theorem either {condition : Prop} [Decidable condition] {more : List τ}
    {others : List (Except ε' (List UInt8))} {reading other : Reading unit τ ε 0 β}
    (holds : condition → Survives next tags writers reading result)
    (fails : ¬condition → Survives next more others other result) :
    Survives next (tags ++ more) (if condition then writers else others)
      (if condition then reading else other) result := by
  intro bytes written
  split at written
  · rename_i case
    obtain ⟨begins, gives⟩ := holds case bytes written
    rw [if_pos case]
    exact ⟨fun tag shown => List.mem_append_left _ (begins tag shown), gives⟩
  · rename_i case
    obtain ⟨begins, gives⟩ := fails case bytes written
    rw [if_neg case]
    exact ⟨fun tag shown => List.mem_append_right _ (begins tag shown), gives⟩

/-- The condition is asked for in the writer of one field. -/
theorem chosen {condition : Prop} [Decidable condition] {more : List τ}
    {first second : Except ε' (List UInt8)} {reading other : Reading unit τ ε 0 β}
    (holds : condition → Survives next tags (first :: writers) reading result)
    (fails : ¬condition → Survives next more (second :: writers) other result) :
    Survives next (tags ++ more)
      ((if condition then first else second) :: writers)
      (if condition then reading else other) result := by
  have whole := either holds fails
  rwa [← apply_ite (· :: writers)] at whole

/-- Nothing is written where a writer fails. -/
theorem refused {exception : ε'} {reading : Reading unit τ ε 0 β} :
    Survives next tags (.error exception :: writers) reading result := by
  intro bytes written
  obtain ⟨first, rest, writtenFirst, _⟩ := writeAll_cons written
  cases writtenFirst

/-- A check of the writer. -/
theorem checked {reading : Reading unit τ ε 0 β} {condition : Prop}
    [Decidable condition] {exception : ε'}
    (others : condition → Survives next tags writers reading result) :
    Survives next tags
      ((if condition then .ok [] else .error exception) :: writers) reading
      result := by
  intro bytes written
  obtain ⟨first, rest, writtenFirst, writtenRest, rfl⟩ := writeAll_cons written
  split at writtenFirst
  · rename_i holds
    cases writtenFirst
    exact others holds rest writtenRest
  · cases writtenFirst

variable [DecidableEq τ]

theorem demanded {value : α} {missing : ε}
    (undoes : field.Undoes next write value)
    (others : Survives next tags writers (later value) result) :
    Survives next [field.tag] (write value :: writers)
      (field.demanded next missing >>= later) result := by
  intro bytes written
  obtain ⟨first, rest, writtenFirst, writtenRest, rfl⟩ := writeAll_cons written
  have gives := Field.gives_demanded undoes writtenFirst rest missing
  refine ⟨fun tag shown => ?_, gives.bind (others rest writtenRest).2⟩
  rw [(undoes first writtenFirst).1] at shown
  cases shown
  exact List.mem_cons_self

theorem optional {value : Option α}
    {later : Option α → Reading unit τ ε 0 β}
    (undoes : ∀ present, value = some present →
      field.Undoes next write present)
    (distinct : field.tag ∉ tags)
    (others : Survives next tags writers (later value) result) :
    Survives next (field.tag :: tags) (writePresent write value :: writers)
      (field.optional next >>= later) result := by
  intro bytes written
  obtain ⟨first, rest, writtenFirst, writtenRest, rfl⟩ := writeAll_cons written
  obtain ⟨begins, givesRest⟩ := others rest writtenRest
  have gives := Field.gives_optional undoes writtenFirst
    fun shown => distinct (begins _ shown)
  refine ⟨fun tag shown => ?_, gives.bind givesRest⟩
  cases value with
  | none =>
      cases writtenFirst
      exact List.mem_cons_of_mem _ (begins tag shown)
  | some value =>
      rw [(undoes value rfl first writtenFirst).1] at shown
      cases shown
      exact List.mem_cons_self

/-- A field that is never written is read as absent. -/
theorem absent {later : Option α → Reading unit τ ε 0 β}
    (distinct : field.tag ∉ tags)
    (others : Survives next tags writers (later none) result) :
    Survives next tags writers (field.optional next >>= later) result := by
  intro bytes written
  obtain ⟨begins, gives⟩ := others bytes written
  have unwritten : (field.optional next).Gives bytes none bytes := by
    refine Reading.Gives.bind (.look _) ?_
    rw [if_neg fun shown => distinct (begins _ shown)]
    exact .pure none bytes
  exact ⟨begins, unwritten.bind gives⟩

theorem many [NeZero unit] {values : List α}
    {later : List α → Reading unit τ ε 0 β}
    (undoes : ∀ value ∈ values, field.Undoes next write value)
    (distinct : field.tag ∉ tags)
    (others : Survives next tags writers (later values) result) :
    Survives next (field.tag :: tags) (writeAll (values.map write) :: writers)
      (field.many next >>= later) result := by
  intro bytes written
  obtain ⟨first, rest, writtenFirst, writtenRest, rfl⟩ := writeAll_cons written
  obtain ⟨begins, givesRest⟩ := others rest writtenRest
  have gives := Field.gives_many undoes writtenFirst
    fun shown => distinct (begins _ shown)
  refine ⟨fun tag shown => ?_, gives.bind givesRest⟩
  cases values with
  | nil =>
      cases writtenFirst
      exact List.mem_cons_of_mem _ (begins tag shown)
  | cons value values =>
      obtain ⟨item, items, writtenItem, _, rfl⟩ := writeAll_cons writtenFirst
      rw [List.append_assoc, (undoes value List.mem_cons_self item writtenItem).1]
        at shown
      cases shown
      exact List.mem_cons_self

omit [DecidableEq τ] in
/-- A writer that writes nothing. -/
theorem skip {reading : Reading unit τ ε 0 β}
    (others : Survives next tags writers reading result) :
    Survives next tags (.ok [] :: writers) reading result := by
  intro bytes written
  obtain ⟨first, rest, writtenFirst, writtenRest, rfl⟩ := writeAll_cons written
  cases writtenFirst
  exact others rest writtenRest

omit [DecidableEq τ] in
/-- More tags may come first. -/
theorem widen {reading : Reading unit τ ε 0 β} {more : List τ}
    (others : Survives next tags writers reading result)
    (subset : ∀ tag ∈ tags, tag ∈ more) :
    Survives next more writers reading result :=
  fun bytes written =>
    ⟨fun tag shown => subset tag ((others bytes written).1 tag shown),
      (others bytes written).2⟩

omit [DecidableEq τ] in
/-- The tag of the first field, known as the tag that it is. -/
theorem named (tag : τ) {reading : Reading unit τ ε 0 β}
    (others : Survives next (tag :: tags) writers reading result) :
    Survives next (tag :: tags) writers reading result :=
  others

end Survives

end Structures

end Traces
