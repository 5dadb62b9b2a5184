import PyKMIP.Lib.Formats

/-!
# Reading and rewriting foreign encodings

A format may be decoded by a program that was not written for its encoder.  The
decoder then reads some values and refuses the others; what it has read may be
encoded in another way.  Here `fits` tells which values the decoder of a format
reads, and which values an encoding keeps.
-/

namespace Formats

section Settling

variable {τ ε α β : Type}

/-- The outcome is the value with the rest of the input, or an error. -/
def Gives (outcome : Except ε (α × List UInt8)) (plain : Bool) (value : α)
    (rest : List UInt8) : Prop :=
  match plain with
  | true => outcome = .ok (value, rest)
  | false => ∃ exception, outcome = .error exception

/-- The decoder reads the value from the bytes if it is plain, and refuses the
bytes otherwise. -/
def Settles (decoder : Decoder ε α) (bytes : List UInt8) (plain : Bool)
    (value : α) : Prop :=
  ∀ rest, Gives (decoder.run (bytes ++ rest)) plain value rest

theorem Gives.bind
    {decoder : Decoder ε α} {next : α → Decoder ε β}
    {input middle rest : List UInt8} {plain others : Bool} {value : α}
    {result : β} (gives : Gives (decoder.run input) plain value middle)
    (continues : Gives ((next value).run middle) others result rest) :
    Gives ((decoder >>= next).run input) (plain && others) result rest := by
  cases plain with
  | true =>
      have ran : decoder.run input = .ok (value, middle) := gives
      rw [run_bind_ok ran, Bool.true_and]
      exact continues
  | false =>
      obtain ⟨exception, ran⟩ := gives
      refine ⟨exception, ?_⟩
      rw [StateT.run_bind, ran]
      rfl

theorem Gives.map
    {decoder : Decoder ε α} {input rest : List UInt8} {plain : Bool} {value : α}
    (gives : Gives (decoder.run input) plain value rest) (change : α → β) :
    Gives ((change <$> decoder).run input) plain (change value) rest := by
  have continues : Gives ((pure (change value) : Decoder ε β).run rest) true
      (change value) rest := rfl
  have mapped : Gives ((decoder >>= fun value => pure (change value)).run input)
      (plain && true) (change value) rest := gives.bind continues
  rwa [Bool.and_true] at mapped

theorem Reads.settles
    {decoder : Decoder ε α} {bytes : List UInt8} {value : α}
    (reads : Reads decoder bytes value) : Settles decoder bytes true value :=
  reads

variable (next : List UInt8 → Option τ)

/-- Every encoding is read, or refused. -/
structure Format.Settled (format : Format τ ε α) : Prop where
  shows : format.Shows next
  settles : ∀ {value bytes}, format.encode value = .ok bytes →
    Settles format.decode bytes (format.fits value) value

def Fields.Settled {α : Type} : Fields τ ε α → Prop
  | .nil => True
  | .always format rest => format.Settled next ∧ rest.Settled
  | .optional format rest => format.Settled next ∧ rest.Settled
  | .demanded format _ _ rest => format.Settled next ∧ rest.Settled
  | .many format rest => format.Settled next ∧ rest.Settled

variable {next}

theorem Format.Settled.orUnset
    {format : Format τ ε α} (settled : format.Settled next) (unset : ε) :
    (format.orUnset unset).Settled next where
  shows := by
    intro value bytes encoded
    cases value with
    | none => cases encoded
    | some value => exact settled.shows encoded
  settles := by
    intro value bytes encoded rest
    cases value with
    | none => cases encoded
    | some value => exact (settled.settles encoded rest).map some

theorem Fields.Settled.shows
    {fields : Fields τ ε α} (settled : fields.Settled next) :
    fields.Shows next := by
  induction fields with
  | nil => trivial
  | always format rest ih => exact ⟨settled.1.shows, ih settled.2⟩
  | optional format rest ih => exact ⟨settled.1.shows, ih settled.2⟩
  | demanded format unset missing rest ih =>
      exact ⟨settled.1.shows, ih settled.2⟩
  | many format rest ih => exact ⟨settled.1.shows, ih settled.2⟩

variable [DecidableEq τ]

theorem gives_decodeIfNext
    {format : Format τ ε α} (settled : format.Settled next) {value : Option α}
    {bytes : List UInt8} (encoded : encodePresent format value = .ok bytes)
    {rest : List UInt8} (other : next rest ≠ some format.tag) :
    Gives ((decodeIfNext next format).run (bytes ++ rest))
      (value.all format.fits) value rest := by
  change Gives ((ite (next (bytes ++ rest) = some format.tag) _ _ :
    Decoder ε _).run _) _ _ _
  cases value with
  | none =>
      cases encoded
      rw [List.nil_append, if_neg other]
      exact rfl
  | some value =>
      rw [if_pos (settled.shows encoded _)]
      exact (settled.settles encoded rest).map some

theorem gives_decodeDemanded
    {format : Format τ ε α} (settled : format.Settled next) {unset missing : ε}
    {value : Option α} {bytes : List UInt8}
    (encoded : encodeDemanded format unset value = .ok bytes)
    (rest : List UInt8) :
    Gives ((decodeDemanded next format missing).run (bytes ++ rest))
      (value.any format.fits) value rest := by
  change Gives ((ite (next (bytes ++ rest) = some format.tag) _ _ :
    Decoder ε _).run _) _ _ _
  cases value with
  | none => cases encoded
  | some value =>
      rw [if_pos (settled.shows encoded _)]
      exact (settled.settles encoded rest).map some

theorem gives_decodeWhileNext
    {format : Format τ ε α} (settled : format.Settled next)
    (ends : next [] = none) {rest : List UInt8}
    (other : next rest ≠ some format.tag) {values : List α}
    {bytes : List UInt8} (encoded : encodeMany format values = .ok bytes)
    {fuel : Nat} (enough : bytes.length ≤ fuel) :
    Gives ((decodeWhileNext next format fuel).run (bytes ++ rest))
      (values.all format.fits) values rest := by
  induction values generalizing bytes fuel with
  | nil =>
      cases encoded
      cases fuel with
      | zero => exact rfl
      | succ fuel =>
          rw [decodeWhileNext]
          change Gives ((ite (next rest = some format.tag) _ _ :
            Decoder ε _).run _) _ _ _
          rw [if_neg other]
          exact rfl
  | cons value values ih =>
      obtain ⟨first, encodedFirst, encoded⟩ := bind_eq_ok encoded
      obtain ⟨others, encodedOthers, encoded⟩ := bind_eq_ok encoded
      cases encoded
      have nonempty : 0 < first.length := by
        rw [List.length_pos_iff]
        rintro rfl
        have shown := settled.shows encodedFirst []
        rw [List.append_nil, ends] at shown
        cases shown
      rw [List.length_append] at enough
      obtain ⟨fuel, rfl⟩ : ∃ less, fuel = less + 1 := ⟨fuel - 1, by omega⟩
      rw [decodeWhileNext, List.append_assoc]
      change Gives ((ite (next (first ++ (others ++ rest)) = some format.tag)
        _ _ : Decoder ε _).run _) _ _ _
      rw [if_pos (settled.shows encodedFirst _), List.all_cons]
      exact (settled.settles encodedFirst _).bind
        ((ih encodedOthers (by omega)).map (value :: ·))

theorem gives_decodeMany
    {format : Format τ ε α} (settled : format.Settled next)
    (ends : next [] = none) {values : List α} {bytes : List UInt8}
    (encoded : encodeMany format values = .ok bytes) {rest : List UInt8}
    (other : next rest ≠ some format.tag) :
    Gives ((decodeMany next format).run (bytes ++ rest))
      (values.all format.fits) values rest :=
  gives_decodeWhileNext settled ends other encoded
    (by rw [List.length_append]; exact Nat.le_add_right ..)

/-- Fields are read if each of them is, and refused otherwise. -/
theorem Fields.gives_decode
    {fields : Fields τ ε α} (settled : fields.Settled next)
    (distinct : fields.Distinct) (ends : next [] = none) {value : α}
    {bytes : List UInt8} (encoded : fields.encode value = .ok bytes) :
    Gives ((fields.decode next).run bytes) (fields.fits value) value [] := by
  induction fields generalizing bytes with
  | nil =>
      cases encoded
      exact rfl
  | always format rest ih =>
      obtain ⟨present, others⟩ := value
      obtain ⟨first, encodedFirst, encoded⟩ := bind_eq_ok encoded
      obtain ⟨otherBytes, encodedOthers, encoded⟩ := bind_eq_ok encoded
      cases encoded
      exact (settled.1.settles encodedFirst _).bind
        ((ih settled.2 distinct encodedOthers).map (present, ·))
  | optional format rest ih =>
      obtain ⟨present, others⟩ := value
      obtain ⟨first, encodedFirst, encoded⟩ := bind_eq_ok encoded
      obtain ⟨otherBytes, encodedOthers, encoded⟩ := bind_eq_ok encoded
      cases encoded
      have absent : next otherBytes ≠ some format.tag := fun shown =>
        distinct.1 (rest.mem_tags settled.2.shows ends encodedOthers shown)
      exact (gives_decodeIfNext settled.1 encodedFirst absent).bind
        ((ih settled.2 distinct.2 encodedOthers).map (present, ·))
  | demanded format unset missing rest ih =>
      obtain ⟨present, others⟩ := value
      obtain ⟨first, encodedFirst, encoded⟩ := bind_eq_ok encoded
      obtain ⟨otherBytes, encodedOthers, encoded⟩ := bind_eq_ok encoded
      cases encoded
      exact (gives_decodeDemanded settled.1 encodedFirst otherBytes).bind
        ((ih settled.2 distinct encodedOthers).map (present, ·))
  | many format rest ih =>
      obtain ⟨values, others⟩ := value
      obtain ⟨first, encodedFirst, encoded⟩ := bind_eq_ok encoded
      obtain ⟨otherBytes, encodedOthers, encoded⟩ := bind_eq_ok encoded
      cases encoded
      have absent : next otherBytes ≠ some format.tag := fun shown =>
        distinct.1 (rest.mem_tags settled.2.shows ends encodedOthers shown)
      exact (gives_decodeMany settled.1 ends encodedFirst absent).bind
        ((ih settled.2 distinct.2 encodedOthers).map (values, ·))

end Settling

section Mapping

variable {τ ε α β : Type}

/-- Items that are changed after they have been read. -/
theorem decodeMany_map [DecidableEq τ] {next : List UInt8 → Option τ}
    {format : Format τ ε α} {other : Format τ ε β} {change : α → β}
    (tag : other.tag = format.tag) (maps : other.decode = change <$> format.decode) :
    decodeMany next other = List.map change <$> decodeMany next format := by
  have same : ∀ fuel, decodeWhileNext next other fuel =
      List.map change <$> decodeWhileNext next format fuel := by
    intro fuel
    induction fuel with
    | zero => rfl
    | succ fuel ih =>
        unfold decodeWhileNext
        rw [ih, tag, maps, map_bind]
        congr
        funext input
        split
        · simp only [map_bind, bind_map_left, map_pure, List.map_cons]
        · rfl
  unfold decodeMany
  simp only [same, map_bind]

theorem encodeMany_map
    {format : Format τ ε α} {other : Format τ ε β} {change : α → β}
    (maps : ∀ value, other.encode (change value) = format.encode value)
    (values : List α) :
    encodeMany other (values.map change) = encodeMany format values := by
  induction values with
  | nil => rfl
  | cons value values ih =>
      rw [List.map_cons]
      unfold encodeMany
      rw [maps, ih]

end Mapping

section Rewriting

variable {τ ε α : Type}

/-- The outcome is the bytes, or more than they are. -/
def Regrown (outcome : Except ε (List UInt8)) (bytes : List UInt8)
    (keeps : Bool) : Prop :=
  match keeps with
  | true => outcome = .ok bytes
  | false => ∀ others, outcome = .ok others → bytes.length < others.length

theorem Regrown.eq_ok_iff
    {outcome : Except ε (List UInt8)} {bytes : List UInt8} {keeps : Bool}
    (regrown : Regrown outcome bytes keeps) :
    outcome = .ok bytes ↔ keeps = true := by
  cases keeps with
  | true => exact iff_of_true regrown rfl
  | false =>
      refine iff_of_false (fun same => ?_) nofun
      exact Nat.lt_irrefl _ (regrown bytes same)

theorem Regrown.length_le
    {outcome : Except ε (List UInt8)} {bytes others : List UInt8} {keeps : Bool}
    (regrown : Regrown outcome bytes keeps) (ran : outcome = .ok others) :
    bytes.length ≤ others.length := by
  cases keeps with
  | true =>
      have same : outcome = .ok bytes := regrown
      rw [ran] at same
      cases same
      exact Nat.le_refl _
  | false => exact Nat.le_of_lt (regrown others ran)

theorem Regrown.append
    {first second : Except ε (List UInt8)} {bytes others : List UInt8}
    {keepsFirst keepsSecond : Bool} (regrown : Regrown first bytes keepsFirst)
    (regrownSecond : Regrown second others keepsSecond) :
    Regrown (do return (← first) ++ (← second)) (bytes ++ others)
      (keepsFirst && keepsSecond) := by
  cases keeps : keepsFirst && keepsSecond with
  | true =>
      rw [Bool.and_eq_true] at keeps
      have same := regrown.eq_ok_iff.mpr keeps.1
      have sameSecond := regrownSecond.eq_ok_iff.mpr keeps.2
      rw [same, sameSecond]
      exact rfl
  | false =>
      intro written ran
      obtain ⟨front, ranFirst, ran⟩ := bind_eq_ok ran
      obtain ⟨back, ranSecond, ran⟩ := bind_eq_ok ran
      cases ran
      have least := regrown.length_le ranFirst
      have leastSecond := regrownSecond.length_le ranSecond
      rw [List.length_append, List.length_append]
      rcases Bool.and_eq_false_iff.mp keeps with grows | grows
      · subst grows
        have more := regrown front ranFirst
        omega
      · subst grows
        have more := regrownSecond back ranSecond
        omega

/-- What is read from the first format is encoded by the second one. -/
def Format.RewrittenBy (format rewriting : Format τ ε α) : Prop :=
  ∀ {value bytes}, format.encode value = .ok bytes →
    format.fits value = true →
    Regrown (rewriting.encode value) bytes (rewriting.fits value)

/-- Two structures with the same fields in other formats. -/
inductive Fields.RewrittenBy :
    {α : Type} → Fields τ ε α → Fields τ ε α → Prop where
  | nil : RewrittenBy .nil .nil
  | always {α β : Type} {format rewriting : Format τ ε α}
      {rest others : Fields τ ε β} :
      format.RewrittenBy rewriting → RewrittenBy rest others →
      RewrittenBy (.always format rest) (.always rewriting others)
  | optional {α β : Type} {format rewriting : Format τ ε α}
      {rest others : Fields τ ε β} :
      format.RewrittenBy rewriting → RewrittenBy rest others →
      RewrittenBy (.optional format rest) (.optional rewriting others)
  | demanded {α β : Type} {format rewriting : Format τ ε α} {unset missing : ε}
      {rest others : Fields τ ε β} :
      format.RewrittenBy rewriting → RewrittenBy rest others →
      RewrittenBy (.demanded format unset missing rest)
        (.demanded rewriting unset missing others)
  | many {α β : Type} {format rewriting : Format τ ε α}
      {rest others : Fields τ ε β} :
      format.RewrittenBy rewriting → RewrittenBy rest others →
      RewrittenBy (.many format rest) (.many rewriting others)

theorem regrown_encodePresent
    {format rewriting : Format τ ε α} (rewritten : format.RewrittenBy rewriting)
    {value : Option α} {bytes : List UInt8}
    (encoded : encodePresent format value = .ok bytes)
    (plain : value.all format.fits = true) :
    Regrown (encodePresent rewriting value) bytes
      (value.all rewriting.fits) := by
  cases value with
  | none => exact encoded
  | some value => exact rewritten encoded plain

theorem regrown_encodeDemanded
    {format rewriting : Format τ ε α} (rewritten : format.RewrittenBy rewriting)
    {unset : ε} {value : Option α} {bytes : List UInt8}
    (encoded : encodeDemanded format unset value = .ok bytes)
    (plain : value.any format.fits = true) :
    Regrown (encodeDemanded rewriting unset value) bytes
      (value.any rewriting.fits) := by
  cases value with
  | none => cases encoded
  | some value => exact rewritten encoded plain

theorem Format.RewrittenBy.orUnset
    {format rewriting : Format τ ε α} (rewritten : format.RewrittenBy rewriting)
    (unset : ε) :
    (format.orUnset unset).RewrittenBy (rewriting.orUnset unset) :=
  regrown_encodeDemanded rewritten

theorem regrown_encodeMany
    {format rewriting : Format τ ε α} (rewritten : format.RewrittenBy rewriting)
    {values : List α} {bytes : List UInt8}
    (encoded : encodeMany format values = .ok bytes)
    (plain : values.all format.fits = true) :
    Regrown (encodeMany rewriting values) bytes
      (values.all rewriting.fits) := by
  induction values generalizing bytes with
  | nil => exact encoded
  | cons value values ih =>
      obtain ⟨first, encodedFirst, encoded⟩ := bind_eq_ok encoded
      obtain ⟨others, encodedOthers, encoded⟩ := bind_eq_ok encoded
      cases encoded
      rw [List.all_cons, Bool.and_eq_true] at plain
      rw [List.all_cons]
      exact (rewritten encodedFirst plain.1).append (ih encodedOthers plain.2)

/-- Fields are encoded with the same bytes if each of them is, and with more
otherwise. -/
theorem Fields.regrown_encode
    {fields rewriting : Fields τ ε α} (rewritten : fields.RewrittenBy rewriting)
    {value : α} {bytes : List UInt8} (encoded : fields.encode value = .ok bytes)
    (plain : fields.fits value = true) :
    Regrown (rewriting.encode value) bytes (rewriting.fits value) := by
  induction rewritten generalizing bytes with
  | nil => exact encoded
  | always first _ ih =>
      obtain ⟨present, others⟩ := value
      obtain ⟨front, encodedFirst, encoded⟩ := bind_eq_ok encoded
      obtain ⟨back, encodedOthers, encoded⟩ := bind_eq_ok encoded
      cases encoded
      have plains := Bool.and_eq_true_iff.mp plain
      exact (first encodedFirst plains.1).append (ih encodedOthers plains.2)
  | optional first _ ih =>
      obtain ⟨present, others⟩ := value
      obtain ⟨front, encodedFirst, encoded⟩ := bind_eq_ok encoded
      obtain ⟨back, encodedOthers, encoded⟩ := bind_eq_ok encoded
      cases encoded
      have plains := Bool.and_eq_true_iff.mp plain
      exact (regrown_encodePresent first encodedFirst plains.1).append
        (ih encodedOthers plains.2)
  | demanded first _ ih =>
      obtain ⟨present, others⟩ := value
      obtain ⟨front, encodedFirst, encoded⟩ := bind_eq_ok encoded
      obtain ⟨back, encodedOthers, encoded⟩ := bind_eq_ok encoded
      cases encoded
      have plains := Bool.and_eq_true_iff.mp plain
      exact (regrown_encodeDemanded first encodedFirst plains.1).append
        (ih encodedOthers plains.2)
  | many first _ ih =>
      obtain ⟨values, others⟩ := value
      obtain ⟨front, encodedFirst, encoded⟩ := bind_eq_ok encoded
      obtain ⟨back, encodedOthers, encoded⟩ := bind_eq_ok encoded
      cases encoded
      have plains := Bool.and_eq_true_iff.mp plain
      exact (regrown_encodeMany first encodedFirst plains.1).append
        (ih encodedOthers plains.2)

end Rewriting

end Formats
