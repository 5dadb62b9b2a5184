import Mathlib.Algebra.GroupWithZero.Nat
import Mathlib.Tactic.Common

/-!
# Formats of tagged items

A decoder takes what it reads from the front of its input.  A format is an
encoder and a decoder of items that begin with a tag.  The fields of a
structure are written one after the other; which of them are present shows in
the tags that come next.
-/

namespace Formats

abbrev Decoder (ε α : Type) := StateT (List UInt8) (Except ε) α

section Decoders

variable {ε α β : Type}

/-- The next bytes, fewer when the input ends before. -/
def take (count : Nat) : Decoder ε (List UInt8) := fun input =>
  .ok (input.take count, input.drop count)

/-- The decoder takes exactly these bytes, whatever follows them. -/
def Reads (decoder : Decoder ε α) (bytes : List UInt8) (value : α) : Prop :=
  ∀ rest, decoder.run (bytes ++ rest) = .ok (value, rest)

theorem run_bind_ok
    {decoder : Decoder ε α} {next : α → Decoder ε β}
    {input rest : List UInt8} {value : α}
    (ran : decoder.run input = .ok (value, rest)) :
    (decoder >>= next).run input = (next value).run rest := by
  rw [StateT.run_bind, ran]
  rfl

theorem run_get_bind
    {next : List UInt8 → Decoder ε β} (input : List UInt8) :
    ((get : Decoder ε (List UInt8)) >>= next).run input =
      (next input).run input := rfl

theorem Reads.pure (value : α) : Reads (pure value : Decoder ε α) [] value :=
  fun _ => rfl

theorem Reads.bind
    {decoder : Decoder ε α} {next : α → Decoder ε β}
    {first second : List UInt8} {value : α} {result : β}
    (reads : Reads decoder first value) (others : Reads (next value) second result) :
    Reads (decoder >>= next) (first ++ second) result := by
  intro rest
  rw [List.append_assoc, run_bind_ok (reads _), others]

theorem Reads.map
    {decoder : Decoder ε α} {bytes : List UInt8} {value : α}
    (reads : Reads decoder bytes value) (change : α → β) :
    Reads (do return change (← decoder)) bytes (change value) := by
  intro rest
  rw [run_bind_ok (reads rest)]
  rfl

theorem reads_take (bytes : List UInt8) :
    Reads (take bytes.length : Decoder ε (List UInt8)) bytes bytes := by
  intro rest
  change Except.ok (_, _) = _
  rw [List.take_left, List.drop_left]

theorem Reads.take_of_length
    {count : Nat} {bytes : List UInt8} (length : bytes.length = count) :
    Reads (take count : Decoder ε (List UInt8)) bytes bytes :=
  length ▸ reads_take bytes

end Decoders

/-- An encoder and a decoder of items with a tag, which values are encoded, and
how long the encodings are. -/
structure Format (τ ε α : Type) where
  tag : τ
  encode : α → Except ε (List UInt8)
  decode : Decoder ε α
  fits : α → Bool
  size : α → Nat

section Encoding

variable {τ ε α β : Type}

theorem bind_eq_ok {first : Except ε α} {rest : α → Except ε β} {result : β}
    (ran : first >>= rest = .ok result) :
    ∃ value, first = .ok value ∧ rest value = .ok result := by
  cases first with
  | ok value => exact ⟨value, rfl, ran⟩
  | error exception => cases ran

theorem run_bind_eq_ok
    {decoder : Decoder ε α} {next : α → Decoder ε β}
    {input rest : List UInt8} {result : β}
    (ran : (decoder >>= next).run input = .ok (result, rest)) :
    ∃ value middle, decoder.run input = .ok (value, middle) ∧
      (next value).run middle = .ok (result, rest) := by
  rw [StateT.run_bind] at ran
  obtain ⟨⟨value, middle⟩, ranFirst, ran⟩ := bind_eq_ok ran
  exact ⟨value, middle, ranFirst, ran⟩

/-- What is written of an optional item. -/
def encodePresent (format : Format τ ε α) :
    Option α → Except ε (List UInt8)
  | some value => format.encode value
  | none => .ok []

def encodeDemanded (format : Format τ ε α) (unset : ε) :
    Option α → Except ε (List UInt8)
  | some value => format.encode value
  | none => .error unset

def encodeMany (format : Format τ ε α) : List α → Except ε (List UInt8)
  | [] => .ok []
  | value :: rest => do
      let bytes ← format.encode value
      let others ← encodeMany format rest
      return bytes ++ others

/-- A value that is refused by the encoder while it is absent. -/
def Format.orUnset (format : Format τ ε α) (unset : ε) :
    Format τ ε (Option α) where
  tag := format.tag
  encode := encodeDemanded format unset
  decode := some <$> format.decode
  fits value := value.any format.fits
  size value := value.elim 0 format.size

/-- The format without the values that its decoder does not give back. -/
def Format.guarded (format : Format τ ε α) (accepts : α → Bool) (refusal : ε) :
    Format τ ε α where
  tag := format.tag
  encode value :=
    if accepts value then format.encode value else .error refusal
  decode := format.decode
  fits value := accepts value && format.fits value
  size := format.size

theorem encodeMany_guarded
    {format : Format τ ε α} {accepts : α → Bool} {refusal : ε} {values : List α}
    (accepted : ∀ value ∈ values, accepts value) :
    encodeMany (format.guarded accepts refusal) values =
      encodeMany format values := by
  induction values with
  | nil => rfl
  | cons value values ih =>
      have first : (format.guarded accepts refusal).encode value =
          format.encode value := if_pos (accepted value List.mem_cons_self)
      unfold encodeMany
      rw [first, ih fun value member =>
        accepted value (List.mem_cons_of_mem _ member)]

/-- The fields of a structure, in their order.

* `always`: written and read without a question,
* `optional`: written if present, read if its tag comes next,
* `demanded`: refused by the writer when absent, and by the reader,
* `many`: any number of items, read as long as their tag comes next. -/
inductive Fields (τ ε : Type) : Type → Type 1 where
  | nil : Fields τ ε Unit
  | always {α β : Type} (format : Format τ ε α) (rest : Fields τ ε β) :
      Fields τ ε (α × β)
  | optional {α β : Type} (format : Format τ ε α) (rest : Fields τ ε β) :
      Fields τ ε (Option α × β)
  | demanded {α β : Type} (format : Format τ ε α) (unset missing : ε)
      (rest : Fields τ ε β) : Fields τ ε (Option α × β)
  | many {α β : Type} (format : Format τ ε α) (rest : Fields τ ε β) :
      Fields τ ε (List α × β)

namespace Fields

def encode {α : Type} : Fields τ ε α → α → Except ε (List UInt8)
  | .nil, _ => .ok []
  | .always format rest, (value, others) => do
      return (← format.encode value) ++ (← rest.encode others)
  | .optional format rest, (value, others) => do
      return (← encodePresent format value) ++ (← rest.encode others)
  | .demanded format unset _ rest, (value, others) => do
      return (← encodeDemanded format unset value) ++ (← rest.encode others)
  | .many format rest, (values, others) => do
      return (← encodeMany format values) ++ (← rest.encode others)

/-- Whether all fields are encoded. -/
def fits {α : Type} : Fields τ ε α → α → Bool
  | .nil, _ => true
  | .always format rest, (value, others) =>
      format.fits value && rest.fits others
  | .optional format rest, (value, others) =>
      value.all format.fits && rest.fits others
  | .demanded format _ _ rest, (value, others) =>
      value.any format.fits && rest.fits others
  | .many format rest, (values, others) =>
      values.all format.fits && rest.fits others

def size {α : Type} : Fields τ ε α → α → Nat
  | .nil, _ => 0
  | .always format rest, (value, others) => format.size value + rest.size others
  | .optional format rest, (value, others) =>
      value.elim 0 format.size + rest.size others
  | .demanded format _ _ rest, (value, others) =>
      value.elim 0 format.size + rest.size others
  | .many format rest, (values, others) =>
      (values.map format.size).sum + rest.size others

/-- The tags that the encoding of the fields can begin with. -/
def tags {α : Type} : Fields τ ε α → List τ
  | .nil => []
  | .always format _ => [format.tag]
  | .optional format rest => format.tag :: rest.tags
  | .demanded format _ _ _ => [format.tag]
  | .many format rest => format.tag :: rest.tags

/-- The absence of a field shows in what follows it. -/
def Distinct {α : Type} : Fields τ ε α → Prop
  | .nil => True
  | .always _ rest => rest.Distinct
  | .optional format rest => format.tag ∉ rest.tags ∧ rest.Distinct
  | .demanded _ _ _ rest => rest.Distinct
  | .many format rest => format.tag ∉ rest.tags ∧ rest.Distinct

end Fields

variable (next : List UInt8 → Option τ)

/-- What is encoded shows the tag of the format and is read back. -/
structure Format.Lawful (format : Format τ ε α) : Prop where
  shows : ∀ {value bytes}, format.encode value = .ok bytes →
    ∀ rest, next (bytes ++ rest) = some format.tag
  reads : ∀ {value bytes}, format.encode value = .ok bytes →
    Reads format.decode bytes value

def Fields.Lawful {α : Type} : Fields τ ε α → Prop
  | .nil => True
  | .always format rest => format.Lawful next ∧ rest.Lawful
  | .optional format rest => format.Lawful next ∧ rest.Lawful
  | .demanded format _ _ rest => format.Lawful next ∧ rest.Lawful
  | .many format rest => format.Lawful next ∧ rest.Lawful

/-- What is encoded shows the tag of the format. -/
def Format.Shows (format : Format τ ε α) : Prop :=
  ∀ {value bytes}, format.encode value = .ok bytes →
    ∀ rest, next (bytes ++ rest) = some format.tag

def Fields.Shows {α : Type} : Fields τ ε α → Prop
  | .nil => True
  | .always format rest => format.Shows next ∧ rest.Shows
  | .optional format rest => format.Shows next ∧ rest.Shows
  | .demanded format _ _ rest => format.Shows next ∧ rest.Shows
  | .many format rest => format.Shows next ∧ rest.Shows

variable {next}

theorem Fields.Lawful.shows
    {fields : Fields τ ε α} (lawful : fields.Lawful next) :
    fields.Shows next := by
  induction fields with
  | nil => trivial
  | always format rest ih => exact ⟨lawful.1.shows, ih lawful.2⟩
  | optional format rest ih => exact ⟨lawful.1.shows, ih lawful.2⟩
  | demanded format unset missing rest ih =>
      exact ⟨lawful.1.shows, ih lawful.2⟩
  | many format rest ih => exact ⟨lawful.1.shows, ih lawful.2⟩

theorem Format.Lawful.orUnset
    {format : Format τ ε α} (lawful : format.Lawful next) (unset : ε) :
    (format.orUnset unset).Lawful next where
  shows := by
    intro value bytes encoded
    cases value with
    | none => cases encoded
    | some value => exact lawful.shows encoded
  reads := by
    intro value bytes encoded rest
    cases value with
    | none => cases encoded
    | some value =>
        have reads := lawful.reads encoded rest
        change (some <$> format.decode).run _ = _
        rw [StateT.run_map, reads]
        rfl

theorem Format.Lawful.ne_nil
    {format : Format τ ε α} (lawful : format.Lawful next)
    (ends : next [] = none) {value : α} {bytes : List UInt8}
    (encoded : format.encode value = .ok bytes) : bytes ≠ [] := by
  rintro rfl
  have shown := lawful.shows encoded []
  rw [List.append_nil, ends] at shown
  cases shown

/-- What is next after the encoding of some fields is one of their tags. -/
theorem Fields.mem_tags
    {fields : Fields τ ε α} (shows : fields.Shows next)
    (ends : next [] = none) {value : α} {bytes : List UInt8}
    (encoded : fields.encode value = .ok bytes) {tag : τ}
    (shown : next bytes = some tag) : tag ∈ fields.tags := by
  induction fields generalizing bytes with
  | nil =>
      cases encoded
      rw [ends] at shown
      cases shown
  | always format rest ih =>
      obtain ⟨first, encodedFirst, encoded⟩ := bind_eq_ok encoded
      obtain ⟨others, encodedOthers, encoded⟩ := bind_eq_ok encoded
      cases encoded
      rw [shows.1 encodedFirst] at shown
      cases shown
      exact List.mem_cons_self
  | optional format rest ih =>
      obtain ⟨present, others⟩ := value
      obtain ⟨first, encodedFirst, encoded⟩ := bind_eq_ok encoded
      obtain ⟨otherBytes, encodedOthers, encoded⟩ := bind_eq_ok encoded
      cases encoded
      cases present with
      | none =>
          cases encodedFirst
          exact List.mem_cons_of_mem _ (ih shows.2 encodedOthers shown)
      | some value =>
          rw [shows.1 encodedFirst] at shown
          cases shown
          exact List.mem_cons_self
  | demanded format unset missing rest ih =>
      obtain ⟨present, others⟩ := value
      obtain ⟨first, encodedFirst, encoded⟩ := bind_eq_ok encoded
      obtain ⟨otherBytes, encodedOthers, encoded⟩ := bind_eq_ok encoded
      cases encoded
      cases present with
      | none => cases encodedFirst
      | some value =>
          rw [shows.1 encodedFirst] at shown
          cases shown
          exact List.mem_cons_self
  | many format rest ih =>
      obtain ⟨values, others⟩ := value
      obtain ⟨first, encodedFirst, encoded⟩ := bind_eq_ok encoded
      obtain ⟨otherBytes, encodedOthers, encoded⟩ := bind_eq_ok encoded
      cases encoded
      cases values with
      | nil =>
          cases encodedFirst
          exact List.mem_cons_of_mem _ (ih shows.2 encodedOthers shown)
      | cons value values =>
          obtain ⟨item, encodedItem, encodedFirst⟩ := bind_eq_ok encodedFirst
          obtain ⟨items, encodedItems, encodedFirst⟩ := bind_eq_ok encodedFirst
          cases encodedFirst
          rw [List.append_assoc, shows.1 encodedItem] at shown
          cases shown
          exact List.mem_cons_self

end Encoding

section Sizes

variable {τ ε α : Type}

/-- What the encoder of a value does: it succeeds with so many bytes if the
value fits, and fails otherwise. -/
def Yields (outcome : Except ε (List UInt8)) (fits : Bool) (size : Nat) : Prop :=
  match outcome with
  | .ok bytes => fits = true ∧ bytes.length = size
  | .error _ => fits = false

theorem Yields.of_ok
    {outcome : Except ε (List UInt8)} {fits : Bool} {size : Nat}
    {bytes : List UInt8} (yields : Yields outcome fits size)
    (ran : outcome = .ok bytes) : fits = true ∧ bytes.length = size := by
  subst ran
  exact yields

theorem Yields.of_fits
    {outcome : Except ε (List UInt8)} {size : Nat}
    (yields : Yields outcome true size) :
    ∃ bytes, outcome = .ok bytes ∧ bytes.length = size := by
  cases outcome with
  | ok bytes => exact ⟨bytes, rfl, yields.2⟩
  | error exception => cases yields

theorem Yields.append
    {first second : Except ε (List UInt8)} {fitsFirst fitsSecond : Bool}
    {sizeFirst sizeSecond : Nat} (yieldsFirst : Yields first fitsFirst sizeFirst)
    (yieldsSecond : Yields second fitsSecond sizeSecond) :
    Yields (do return (← first) ++ (← second)) (fitsFirst && fitsSecond)
      (sizeFirst + sizeSecond) := by
  cases first with
  | error exception =>
      change (fitsFirst && fitsSecond) = false
      rw [show fitsFirst = false from yieldsFirst, Bool.false_and]
  | ok bytes =>
      cases second with
      | error exception =>
          change (fitsFirst && fitsSecond) = false
          rw [show fitsSecond = false from yieldsSecond, Bool.and_false]
      | ok others =>
          constructor
          · rw [yieldsFirst.1, yieldsSecond.1, Bool.and_self]
          · rw [List.length_append, yieldsFirst.2, yieldsSecond.2]

theorem Yields.mapError
    {ε' : Type} {outcome : Except ε (List UInt8)} {fits : Bool} {size : Nat}
    (yields : Yields outcome fits size) (change : ε → ε') :
    Yields (outcome.mapError change) fits size := by
  cases outcome with
  | ok bytes => exact yields
  | error exception => exact yields

/-- A header, a value and the padding after it. -/
theorem Yields.append_append
    {first second third : Except ε (List UInt8)}
    {fitsFirst fitsSecond fitsThird : Bool}
    {sizeFirst sizeSecond sizeThird : Nat}
    (yieldsFirst : Yields first fitsFirst sizeFirst)
    (yieldsSecond : Yields second fitsSecond sizeSecond)
    (yieldsThird : Yields third fitsThird sizeThird) :
    Yields (do
        let header ← first
        let value ← second
        let padding ← third
        return header ++ (value ++ padding))
      (fitsFirst && (fitsSecond && fitsThird))
      (sizeFirst + (sizeSecond + sizeThird)) := by
  have yields := yieldsFirst.append (yieldsSecond.append yieldsThird)
  cases first with
  | error exception => exact yields
  | ok header =>
      cases second with
      | error exception => exact yields
      | ok value => cases third <;> exact yields

/-- The encoder accepts what fits, and nothing else. -/
def Format.Sized (format : Format τ ε α) : Prop :=
  ∀ value, Yields (format.encode value) (format.fits value) (format.size value)

def Fields.Sized {α : Type} : Fields τ ε α → Prop
  | .nil => True
  | .always format rest => format.Sized ∧ rest.Sized
  | .optional format rest => format.Sized ∧ rest.Sized
  | .demanded format _ _ rest => format.Sized ∧ rest.Sized
  | .many format rest => format.Sized ∧ rest.Sized

theorem yields_encodePresent
    {format : Format τ ε α} (sized : format.Sized) (value : Option α) :
    Yields (encodePresent format value) (value.all format.fits)
      (value.elim 0 format.size) := by
  cases value with
  | none => exact ⟨rfl, rfl⟩
  | some value => exact sized value

theorem yields_encodeDemanded
    {format : Format τ ε α} (sized : format.Sized) (unset : ε)
    (value : Option α) :
    Yields (encodeDemanded format unset value) (value.any format.fits)
      (value.elim 0 format.size) := by
  cases value with
  | none => rfl
  | some value => exact sized value

theorem yields_encodeMany
    {format : Format τ ε α} (sized : format.Sized) (values : List α) :
    Yields (encodeMany format values) (values.all format.fits)
      (values.map format.size).sum := by
  induction values with
  | nil => exact ⟨rfl, rfl⟩
  | cons value values ih =>
      rw [List.all_cons, List.map_cons, List.sum_cons]
      exact (sized value).append ih

theorem Format.Sized.orUnset
    {format : Format τ ε α} (sized : format.Sized) (unset : ε) :
    (format.orUnset unset).Sized :=
  yields_encodeDemanded sized unset

theorem Fields.yields_encode
    {fields : Fields τ ε α} (sized : fields.Sized) (value : α) :
    Yields (fields.encode value) (fields.fits value) (fields.size value) := by
  induction fields with
  | nil => exact ⟨rfl, rfl⟩
  | always format rest ih => exact (sized.1 _).append (ih sized.2 _)
  | optional format rest ih =>
      exact (yields_encodePresent sized.1 _).append (ih sized.2 _)
  | demanded format unset missing rest ih =>
      exact (yields_encodeDemanded sized.1 unset _).append (ih sized.2 _)
  | many format rest ih =>
      exact (yields_encodeMany sized.1 _).append (ih sized.2 _)

end Sizes

section Decoding

variable {τ ε α : Type} [DecidableEq τ] (next : List UInt8 → Option τ)

/-- The item, if its tag comes next. -/
def decodeIfNext (format : Format τ ε α) : Decoder ε (Option α) := do
  if next (← get) = some format.tag then some <$> format.decode else return none

def decodeDemanded (format : Format τ ε α) (missing : ε) :
    Decoder ε (Option α) := do
  if next (← get) = some format.tag then some <$> format.decode
  else throw missing

/-- The items of a list, as long as the tag of their format comes next. -/
def decodeWhileNext (format : Format τ ε α) : Nat → Decoder ε (List α)
  | 0 => pure []
  | fuel + 1 => do
      if next (← get) = some format.tag then
        let value ← format.decode
        let others ← decodeWhileNext format fuel
        return value :: others
      else return []

/-- Every item takes at least a byte of the input. -/
def decodeMany (format : Format τ ε α) : Decoder ε (List α) := do
  decodeWhileNext next format (← get).length

def Fields.decode {α : Type} : Fields τ ε α → Decoder ε α
  | .nil => pure ()
  | .always format rest => do
      return (← format.decode, ← rest.decode)
  | .optional format rest => do
      return (← decodeIfNext next format, ← rest.decode)
  | .demanded format _ missing rest => do
      return (← decodeDemanded next format missing, ← rest.decode)
  | .many format rest => do
      return (← decodeMany next format, ← rest.decode)

instance Fields.instDecidableDistinct {α : Type} :
    (fields : Fields τ ε α) → Decidable fields.Distinct
  | .nil => .isTrue trivial
  | .always _ rest => instDecidableDistinct rest
  | .optional _ rest =>
      have := instDecidableDistinct rest
      inferInstanceAs (Decidable (_ ∧ rest.Distinct))
  | .demanded _ _ _ rest => instDecidableDistinct rest
  | .many _ rest =>
      have := instDecidableDistinct rest
      inferInstanceAs (Decidable (_ ∧ rest.Distinct))

variable {next}

theorem decodeWhileNext_encodeMany
    {format : Format τ ε α} (lawful : format.Lawful next)
    (ends : next [] = none) {rest : List UInt8}
    (other : next rest ≠ some format.tag) {values : List α}
    {bytes : List UInt8} (encoded : encodeMany format values = .ok bytes)
    {fuel : Nat} (enough : bytes.length ≤ fuel) :
    (decodeWhileNext next format fuel).run (bytes ++ rest) =
      .ok (values, rest) := by
  induction values generalizing bytes fuel with
  | nil =>
      cases encoded
      cases fuel with
      | zero => rfl
      | succ fuel =>
          rw [decodeWhileNext]
          change (ite (next rest = some format.tag) _ _ : Decoder ε _).run _ = _
          rw [if_neg other]
          rfl
  | cons value values ih =>
      obtain ⟨first, encodedFirst, encoded⟩ := bind_eq_ok encoded
      obtain ⟨others, encodedOthers, encoded⟩ := bind_eq_ok encoded
      cases encoded
      have nonempty := List.length_pos_iff.mpr
        (lawful.ne_nil ends encodedFirst)
      rw [List.length_append] at enough
      obtain ⟨fuel, rfl⟩ : ∃ less, fuel = less + 1 := ⟨fuel - 1, by omega⟩
      rw [decodeWhileNext, List.append_assoc]
      change (ite (next (first ++ (others ++ rest)) = some format.tag) _ _ :
        Decoder ε _).run _ = _
      rw [if_pos (lawful.shows encodedFirst _),
        run_bind_ok (lawful.reads encodedFirst _),
        run_bind_ok (ih encodedOthers (by omega))]
      rfl

theorem decodeMany_guarded
    {format : Format τ ε α} {accepts : α → Bool} {refusal : ε} :
    decodeMany next (format.guarded accepts refusal) =
      decodeMany next format := by
  have same : ∀ fuel, decodeWhileNext next (format.guarded accepts refusal) fuel =
      decodeWhileNext next format fuel := by
    intro fuel
    induction fuel with
    | zero => rfl
    | succ fuel ih =>
        unfold decodeWhileNext
        rw [ih]
        rfl
  unfold decodeMany
  simp only [same]

theorem run_decodeMany
    {format : Format τ ε α} (lawful : format.Lawful next)
    (ends : next [] = none) {values : List α} {bytes : List UInt8}
    (encoded : encodeMany format values = .ok bytes) {rest : List UInt8}
    (other : next rest ≠ some format.tag) :
    (decodeMany next format).run (bytes ++ rest) = .ok (values, rest) :=
  decodeWhileNext_encodeMany lawful ends other encoded
    (by rw [List.length_append]; exact Nat.le_add_right ..)

theorem run_decodeIfNext
    {format : Format τ ε α} (lawful : format.Lawful next) {value : Option α}
    {bytes : List UInt8} (encoded : encodePresent format value = .ok bytes)
    {rest : List UInt8} (other : next rest ≠ some format.tag) :
    (decodeIfNext next format).run (bytes ++ rest) = .ok (value, rest) := by
  change (ite (next (bytes ++ rest) = some format.tag) _ _ : Decoder ε _).run _ = _
  cases value with
  | none =>
      cases encoded
      rw [List.nil_append, if_neg other]
      rfl
  | some value =>
      have reads := lawful.reads encoded rest
      rw [if_pos (lawful.shows encoded _), StateT.run_map, reads]
      rfl

theorem run_decodeDemanded
    {format : Format τ ε α} (lawful : format.Lawful next) {unset missing : ε}
    {value : Option α} {bytes : List UInt8}
    (encoded : encodeDemanded format unset value = .ok bytes)
    (rest : List UInt8) :
    (decodeDemanded next format missing).run (bytes ++ rest) =
      .ok (value, rest) := by
  change (ite (next (bytes ++ rest) = some format.tag) _ _ : Decoder ε _).run _ = _
  cases value with
  | none => cases encoded
  | some value =>
      have reads := lawful.reads encoded rest
      rw [if_pos (lawful.shows encoded _), StateT.run_map, reads]
      rfl

/-- Fields are read back if the absence of each of them shows. -/
theorem Fields.decode_encode
    {fields : Fields τ ε α} (lawful : fields.Lawful next)
    (distinct : fields.Distinct) (ends : next [] = none) {value : α}
    {bytes : List UInt8} (encoded : fields.encode value = .ok bytes) :
    (fields.decode next).run bytes = .ok (value, []) := by
  induction fields generalizing bytes with
  | nil =>
      cases encoded
      rfl
  | always format rest ih =>
      obtain ⟨present, others⟩ := value
      obtain ⟨first, encodedFirst, encoded⟩ := bind_eq_ok encoded
      obtain ⟨otherBytes, encodedOthers, encoded⟩ := bind_eq_ok encoded
      cases encoded
      unfold decode
      rw [run_bind_ok (lawful.1.reads encodedFirst _),
        run_bind_ok (ih lawful.2 distinct encodedOthers)]
      rfl
  | optional format rest ih =>
      obtain ⟨present, others⟩ := value
      obtain ⟨first, encodedFirst, encoded⟩ := bind_eq_ok encoded
      obtain ⟨otherBytes, encodedOthers, encoded⟩ := bind_eq_ok encoded
      cases encoded
      have absent : next otherBytes ≠ some format.tag := fun shown =>
        distinct.1 (rest.mem_tags lawful.2.shows ends encodedOthers shown)
      unfold decode
      rw [run_bind_ok (run_decodeIfNext lawful.1 encodedFirst absent),
        run_bind_ok (ih lawful.2 distinct.2 encodedOthers)]
      rfl
  | demanded format unset missing rest ih =>
      obtain ⟨present, others⟩ := value
      obtain ⟨first, encodedFirst, encoded⟩ := bind_eq_ok encoded
      obtain ⟨otherBytes, encodedOthers, encoded⟩ := bind_eq_ok encoded
      cases encoded
      unfold decode
      rw [run_bind_ok (run_decodeDemanded lawful.1 encodedFirst otherBytes),
        run_bind_ok (ih lawful.2 distinct encodedOthers)]
      rfl
  | many format rest ih =>
      obtain ⟨values, others⟩ := value
      obtain ⟨first, encodedFirst, encoded⟩ := bind_eq_ok encoded
      obtain ⟨otherBytes, encodedOthers, encoded⟩ := bind_eq_ok encoded
      cases encoded
      have absent : next otherBytes ≠ some format.tag := fun shown =>
        distinct.1 (rest.mem_tags lawful.2.shows ends encodedOthers shown)
      unfold decode
      rw [run_bind_ok (run_decodeMany lawful.1 ends encodedFirst absent),
        run_bind_ok (ih lawful.2 distinct.2 encodedOthers)]
      rfl

end Decoding

end Formats
