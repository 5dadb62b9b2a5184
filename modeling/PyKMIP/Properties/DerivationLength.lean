import PyKMIP.Crypto.Derivation
import PyKMIP.Properties.AttributeReadBack
import PyKMIP.Properties.PlaceholderIsolation

/-!
# The length of derived keys

What DeriveKey stores is cut from the output of the derivation function.  A
negative length passes the comparison with the output and becomes a slice that
counts from its end; only symmetric keys check their length again.
-/

namespace PyKMIP

open StatefulExcept

/-- The Cryptographic Length in the template of the request. -/
def DeriveKeyRequestPayload.cryptographicLength
    (payload : DeriveKeyRequestPayload) (version : ProtocolVersion) :
    Option Int :=
  match processOptionalTemplate version payload.templateAttribute with
  | .error _ => none
  | .ok attributes =>
      (attributes.get? .cryptographicLength).bind fun value =>
        (value.asSingle >>= AttributeValue.asInteger).toOption

section Cutting

theorem derivationLength_ok
    {attributes : ObjectAttributes} {length : Int}
    (given : derivationLength attributes = .ok length) :
    (attributes.get? .cryptographicLength).bind
        (fun value => (value.asSingle >>= AttributeValue.asInteger).toOption) =
      some (8 * length) := by
  unfold derivationLength at given
  cases found : attributes.get? .cryptographicLength with
  | none =>
      rw [found] at given
      cases given
  | some value =>
      rw [found] at given
      obtain ⟨bits, isInteger, given⟩ := except_bind_ok_iff.mp given
      by_cases divides : bits % 8 = 0
      · rw [if_pos divides] at given
        cases given
        rw [Option.bind_some, isInteger]
        have whole : 8 * (bits / 8) = bits := by omega
        exact congrArg some whole.symm
      · rw [if_neg divides] at given
        cases given

/-- The output of the back end for some of the objects, and how much of it is
left. -/
theorem derivedData_ok
    {world : World} {payload : DeriveKeyRequestPayload} {length : Int}
    {keyingObject : StoredObject} {others : List StoredObject} {value : Bytes}
    (derived : derivedData world payload length keyingObject others =
      .ok value) :
    ∃ parameters output,
      payload.derivationParameters.cryptographicParameters = some parameters ∧
      world.cryptographyEngine.deriveKey payload.derivationMethod length
          (payload.derivationParameters.derivationData <|> alternateData others)
          keyingObject.managedObject.value parameters
          payload.derivationParameters.salt
          payload.derivationParameters.iterationCount
          (payload.derivationParameters.initializationVector.getD []) =
        .ok output ∧
      length ≤ output.length ∧
      value = if output.length > length then takeTo length output else output := by
  obtain ⟨parameters, given, derived⟩ := except_bind_ok_iff.mp derived
  obtain ⟨output, outputs, derived⟩ := except_bind_ok_iff.mp derived
  have present : payload.derivationParameters.cryptographicParameters =
      some parameters := by
    cases stored : payload.derivationParameters.cryptographicParameters with
    | none =>
        rw [stored] at given
        cases given
    | some other =>
        rw [stored] at given
        cases given
        rfl
  refine ⟨parameters, output, present, outputs, ?_⟩
  by_cases short : length > output.length
  · rw [if_pos short] at derived
    cases derived
  · rw [if_neg short] at derived
    refine ⟨not_lt.mp short, ?_⟩
    by_cases long : output.length > length
    · rw [if_pos long] at derived
      cases derived
      exact (if_pos long).symm
    · rw [if_neg long] at derived
      cases derived
      exact (if_neg long).symm

/-- A length that is not negative is the length of what is left. -/
theorem length_cut
    {length : Int} {output : Bytes} (nonnegative : 0 ≤ length)
    (enough : length ≤ output.length) :
    ((if output.length > length then takeTo length output
      else output).length : Int) = length := by
  by_cases long : output.length > length
  · rw [if_pos long, takeTo, if_pos nonnegative, List.length_take]
    omega
  · rw [if_neg long]
    omega

theorem cut_isPrefix (length : Int) (output : Bytes) :
    (if output.length > length then takeTo length output else output) <+:
      output := by
  split
  · unfold takeTo
    split
    · exact List.take_prefix _ _
    · exact List.take_prefix _ _
  · exact List.prefix_refl output

/-- The derived object holds the derived bytes; a symmetric key has made sure
of their length. -/
theorem derivedObject_ok
    {objectType : ObjectType} {algorithm : Option CryptographicAlgorithm}
    {length : Int} {value : Bytes} {attributes remaining : ObjectAttributes}
    {derived : ManagedObject}
    (built : derivedObject objectType algorithm length value attributes =
      .ok (derived, remaining)) :
    derived.value = value ∧
      (objectType = .symmetricKey → (value.length : Int) = length) := by
  by_cases symmetric : objectType = .symmetricKey
  · subst symmetric
    have holds : derived.value = value :=
      congrArg ManagedObject.Origin.value (derivedObject_symmetricKey_origin built)
    obtain ⟨present, _, built⟩ := except_bind_ok_iff.mp built
    obtain ⟨symmetricKey, constructed, _⟩ := except_bind_ok_iff.mp built
    refine ⟨holds, fun _ => ?_⟩
    unfold newSymmetricKey at constructed
    split at constructed
    · cases constructed
    · rename_i checked
      have sized : ({} : KeyWrappingColumns).keyWrappingData = none →
          (value.length : Int) * 8 = length * 8 := by
        simpa using checked
      have whole := sized rfl
      omega
  · unfold derivedObject at built
    rw [if_neg symmetric] at built
    cases built
    exact ⟨rfl, fun isSymmetric => absurd isSymmetric symmetric⟩

end Cutting

section Items

/-- What the derivation function puts out for the objects that the request
names: the first is the keying material, and secret data among the others is
the derivation data if the request has none. -/
def Derives (package : Cryptography) (execution : Execution)
    (payload : DeriveKeyRequestPayload) (length : Int) (output : Bytes) :
    Prop :=
  ∃ keyingObject others parameters,
    List.Forall₂ (fun uniqueIdentifier storedObject =>
        access execution.world execution.before (some uniqueIdentifier) .get =
          .ok storedObject)
      payload.uniqueIdentifiers (keyingObject :: others) ∧
    payload.derivationParameters.cryptographicParameters = some parameters ∧
    DerivationOutput package length
      (payload.derivationParameters.derivationData <|> alternateData others)
      keyingObject.managedObject.value parameters
      payload.derivationParameters.salt
      payload.derivationParameters.iterationCount
      (payload.derivationParameters.initializationVector.getD [])
      payload.derivationMethod output

/-- The item adds one row.  Its value has the requested bits and is the
beginning of what the derivation function puts out. -/
def StoresRequested (package : Cryptography) (execution : Execution)
    (payload : DeriveKeyRequestPayload) : Prop :=
  ∃ managedObject length output,
    execution.rowsAfter = execution.rowsBefore.insert managedObject ∧
    payload.cryptographicLength execution.before.protocolVersion =
      some (8 * length) ∧
    Derives package execution payload length output ∧
    (managedObject.value.length : Int) = length ∧
    managedObject.value <+: output

/-- The result checks its length, or the length is not negative. -/
def DeriveKeyRequestPayload.LengthChecked (payload : DeriveKeyRequestPayload)
    (version : ProtocolVersion) : Prop :=
  payload.objectType = .symmetricKey ∨
    ∀ bits ∈ payload.cryptographicLength version, 0 ≤ bits

variable {package : Cryptography} {execution : Execution}
  {payload : DeriveKeyRequestPayload} {response : ResponsePayload}

theorem origin_withColumnDefaults (managedObject : ManagedObject) :
    (DataStore.withColumnDefaults managedObject).origin =
      managedObject.origin := rfl

/-- What a DeriveKey item that succeeds has looked up, derived and stored. -/
theorem derivation_of_outcome
    (clean : execution.before.Clean)
    (derives : execution.payload = .deriveKey payload)
    (outcome : execution.outcome = .ok response) :
    ∃ attributes keyingObject others length value base remaining managedObject,
      processOptionalTemplate execution.before.protocolVersion
        payload.templateAttribute = .ok attributes ∧
      List.Forall₂ (fun uniqueIdentifier storedObject =>
          access execution.world execution.before (some uniqueIdentifier) .get =
            .ok storedObject)
        payload.uniqueIdentifiers (keyingObject :: others) ∧
      derivationLength attributes = .ok length ∧
      derivedData execution.world payload length keyingObject others =
        .ok value ∧
      (∃ algorithm, derivedObject payload.objectType algorithm length value
        attributes = .ok (base, remaining)) ∧
      execution.rowsAfter = execution.rowsBefore.insert managedObject ∧
      managedObject.origin = base.origin ∧
      response = .deriveKey (toString execution.rowsBefore.next) := by
  have ran := Execution.result_of_outcome_ok outcome
  unfold Execution.result at ran
  rw [processOperation_follows, derives] at ran
  obtain ⟨attributes, processed, ran⟩ :=
    Plan.run_ofExcept_ok (Plan.run_supportedSince_ok ran)
  obtain ⟨_, ran⟩ := Plan.run_refuseIf_ok ran
  obtain ⟨_, ran⟩ := Plan.run_refuseIf_ok ran
  obtain ⟨storedObjects, accesses, ran⟩ := planSources_ok _ ran
  obtain ⟨keyingObject, isFirst, ran⟩ := Plan.run_ofExcept_ok ran
  obtain ⟨length, given, ran⟩ := Plan.run_ofExcept_ok ran
  obtain ⟨algorithm, _, ran⟩ := Plan.run_ofExcept_ok ran
  obtain ⟨value, derived, ran⟩ := Plan.run_ofExcept_ok ran
  obtain ⟨⟨⟨base, remaining⟩, built⟩, _, ran⟩ := Plan.run_ofExcept_ok ran
  obtain ⟨completed, _, flushes⟩ := Plan.run_ofExcept_ok ran
  have session : execution.before.dataStore.session =
      execution.rowsBefore := clean
  cases storedObjects with
  | nil => cases isFirst
  | cons first others =>
      cases isFirst
      obtain ⟨replied, commits, _⟩ := flush_eq_ok flushes
      refine ⟨attributes, keyingObject, others, length, value, base, remaining,
        DataStore.withColumnDefaults completed.1, processed,
        accesses.imp fun _ _ => And.left, given, derived, ⟨algorithm, built⟩,
        ?_, ?_, ?_⟩
      · unfold Execution.rowsAfter
        rw [commits.committed]
        show execution.before.dataStore.session.insert _ = _
        rw [session]
        rfl
      · rw [origin_withColumnDefaults]
        exact completeObject_origin completed.2
      · rw [replied]
        show ResponsePayload.deriveKey
          (toString execution.before.dataStore.session.next) = _
        rw [session]

/-- What a DeriveKey item that succeeds has derived and stored. -/
theorem deriveKey_ok
    (clean : execution.before.Clean)
    (derives : execution.payload = .deriveKey payload)
    (backed : execution.world.cryptographyEngine.deriveKey = deriveKey package)
    (outcome : execution.outcome = .ok response) :
    ∃ managedObject length output,
      execution.rowsAfter = execution.rowsBefore.insert managedObject ∧
      payload.cryptographicLength execution.before.protocolVersion =
        some (8 * length) ∧
      Derives package execution payload length output ∧
      length ≤ output.length ∧
      managedObject.value =
        (if output.length > length then takeTo length output else output) ∧
      (payload.objectType = .symmetricKey →
        (managedObject.value.length : Int) = length) := by
  obtain ⟨attributes, keyingObject, others, length, value, base, remaining, row,
    processed, accesses, given, derived, ⟨algorithm, built⟩, adds, origin, _⟩ :=
    derivation_of_outcome clean derives outcome
  obtain ⟨parameters, output, present, outputs, enough, isCut⟩ :=
    derivedData_ok derived
  obtain ⟨holds, checked⟩ := derivedObject_ok built
  have stored : row.value = value :=
    (congrArg ManagedObject.Origin.value origin).trans holds
  refine ⟨row, length, output, adds, ?_,
    ⟨keyingObject, others, parameters, accesses, present, ?_⟩, enough, ?_, ?_⟩
  · unfold DeriveKeyRequestPayload.cryptographicLength
    rw [processed]
    exact derivationLength_ok given
  · rw [backed] at outputs
    exact deriveKey_output package outputs
  · exact stored.trans isCut
  · rw [stored]
    exact checked

theorem storesRequested_iff
    (clean : execution.before.Clean)
    (derives : execution.payload = .deriveKey payload)
    (backed : execution.world.cryptographyEngine.deriveKey = deriveKey package)
    (succeeded : execution.Succeeded) :
    StoresRequested package execution payload ↔
      payload.LengthChecked execution.before.protocolVersion := by
  obtain ⟨response, outcome⟩ := Execution.outcome_of_succeeded succeeded
  constructor
  · rintro ⟨managedObject, length, _, _, given, _, requested, _⟩
    refine .inr fun bits isGiven => ?_
    have same : some (8 * length) = some bits := given.symm.trans isGiven
    cases same
    omega
  · intro checked
    obtain ⟨managedObject, length, output, adds, given, outputs, enough, isCut,
      symmetric⟩ := deriveKey_ok clean derives backed outcome
    refine ⟨managedObject, length, output, adds, given, outputs, ?_, ?_⟩
    · rcases checked with isSymmetric | nonnegative
      · exact symmetric isSymmetric
      · have positive := nonnegative _ given
        rw [isCut]
        exact length_cut (by omega) enough
    · rw [isCut]
      exact cut_isPrefix length output

end Items

/-- In every run, a DeriveKey item that succeeds stores the requested bits
exactly if the result checks its length or the length is not negative; one that
fails stores nothing. -/
theorem deriveKey_stores_requested_iff
    {package : Cryptography} {start : EngineState} {exchanges : List Exchange}
    {execution : Execution} {payload : DeriveKeyRequestPayload}
    (member : execution ∈ history start exchanges)
    (derives : execution.payload = .deriveKey payload)
    (backed : execution.world.cryptographyEngine.deriveKey =
      deriveKey package) :
    (execution.Succeeded →
      (StoresRequested package execution payload ↔
        payload.LengthChecked execution.before.protocolVersion)) ∧
    (¬execution.Succeeded → execution.rowsAfter = execution.rowsBefore) := by
  have clean := clean_of_mem_history member
  constructor
  · exact storesRequested_iff clean derives backed
  · exact Execution.rowsAfter_of_failed clean

section Samples

/-- A package that hashes sixteen zeros. -/
def hashingPackage : Cryptography :=
  { Cryptography.refusing with
    hash := fun _ _ => [74, 231, 19, 54, 228, 75, 249, 191, 121, 210, 117, 46,
      35, 72, 24, 165] }

def hashingWorld : World :=
  { sampleWorld with
    cryptographyEngine := { sampleCryptography with
      deriveKey := deriveKey hashingPackage } }

/-- Derive secret data from the MD5 hash of the first key. -/
def hashDerivation (bits : Int) : DeriveKeyRequestPayload where
  objectType := .secretData
  uniqueIdentifiers := ["1"]
  derivationMethod := .hash
  derivationParameters :=
    { cryptographicParameters := some { hashingAlgorithm := some .md5 } }
  templateAttribute := some {
    attributes := [{ attributeName := .cryptographicLength
                     attributeValue := .integer bits }] }

/-- An engine with a key of sixteen zeros that may be used for derivation. -/
def derivingEngine : EngineState :=
  run (newEngine .empty []) [sampleExchange hashingWorld "alice"
    [{ requestPayload := maskedCreation 0x200 [] }]]

def hashExchange (bits : Int) : Exchange :=
  sampleExchange hashingWorld "alice"
    [{ requestPayload := .deriveKey (hashDerivation bits) }]

def hashExecution (bits : Int) : Execution :=
  ⟨hashingWorld, { requestPayload := .deriveKey (hashDerivation bits) },
    (hashExchange bits).entering derivingEngine⟩

theorem mem_history_hashExecution (bits : Int) :
    hashExecution bits ∈ history derivingEngine [hashExchange bits] := by
  have executed := Exchange.executions_singleton
    (show checkHeader (hashExchange bits).world.received
      (hashExchange bits).header = .ok .stop from rfl) rfl derivingEngine
  rw [history, executed]
  exact List.mem_append_left _ List.mem_cons_self

/-- The first eight bytes of the hash are stored. -/
theorem deriveKey_stores_requested_iff_hash :
    (hashExecution 64).Succeeded ∧
      StoresRequested hashingPackage (hashExecution 64) (hashDerivation 64) := by
  have succeeded : (hashExecution 64).Succeeded := by decide
  obtain ⟨stores, -⟩ := deriveKey_stores_requested_iff
    (mem_history_hashExecution 64) rfl rfl
  refine ⟨succeeded, (stores succeeded).mpr (.inr ?_)⟩
  rintro bits ⟨⟩
  decide

/-- With a length of minus eight bits, fifteen bytes of the hash are stored. -/
theorem negative_length_is_stored :
    ¬∀ (package : Cryptography) (start : EngineState)
        (exchanges : List Exchange) (execution : Execution)
        (payload : DeriveKeyRequestPayload),
      execution ∈ history start exchanges →
      execution.payload = .deriveKey payload →
      execution.world.cryptographyEngine.deriveKey = deriveKey package →
      execution.Succeeded → StoresRequested package execution payload := by
  intro stores
  have succeeded : (hashExecution (-8)).Succeeded := by decide
  obtain ⟨managedObject, length, _, _, given, _, requested, _⟩ :=
    stores hashingPackage derivingEngine [hashExchange (-8)]
      (hashExecution (-8)) (hashDerivation (-8))
      (mem_history_hashExecution (-8)) rfl rfl succeeded
  have negative : (hashDerivation (-8)).cryptographicLength
      (hashExecution (-8)).before.protocolVersion = some (-8) := by decide
  have same : some (8 * length) = some (-8) := given.symm.trans negative
  have whole : 8 * length = -8 := Option.some.inj same
  omega

end Samples

end PyKMIP
