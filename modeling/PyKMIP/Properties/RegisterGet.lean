import PyKMIP.Rows

/-!
# What Register stores, Get returns

A registered secret goes through the storage model and back.  The way back
loses the fields of a key block that have no column, wrapping data whose fields
are all falsy, and a length of zero that the template replaces.
-/

namespace PyKMIP

open EStateM StatefulExcept History
open AttributePolicy

section Wrapping

/-- The parameters of a key information are read back when one is truthy. -/
def KeyInformation.Kept (information : KeyInformation) : Prop :=
  ∃ parameters, information.cryptographicParameters = some parameters ∧
    parameters.anyValue = true

def KeyWrappingData.anyField (data : KeyWrappingData) : Bool :=
  data.wrappingMethod.isSome || data.encryptionKeyInformation.isSome ||
    data.macSignatureKeyInformation.isSome || truthyBytes data.macSignature ||
    truthyBytes data.ivCounterNonce || data.encodingOption.isSome

/-- Wrapping data that survives its columns. -/
structure KeyWrappingData.Kept (data : KeyWrappingData) : Prop where
  encryption : ∀ information, data.encryptionKeyInformation = some information →
    information.Kept
  macSignature : ∀ information,
    data.macSignatureKeyInformation = some information → information.Kept
  anyField : data.anyField = true

theorem keyInformation_eq_iff
    {information : Option KeyInformation} {columns : KeyInformationColumns}
    (built : buildKeyInformation information = .ok columns) :
    columns.keyInformation = information ↔
      ∀ present, information = some present → present.Kept := by
  cases information with
  | none =>
      cases built
      simp [KeyInformationColumns.keyInformation, CryptographicParameters.anyValue,
        truthyText, truthyInt]
  | some present =>
      rcases present with ⟨uniqueIdentifier, parameters⟩
      cases parameters with
      | none => cases built
      | some parameters =>
          cases built
          unfold KeyInformationColumns.keyInformation
          cases anyValue : parameters.anyValue with
          | true => simp [KeyInformation.Kept, anyValue]
          | false =>
              simp only [Bool.false_eq_true, if_false, Option.isSome_none,
                Bool.or_false]
              constructor
              · intro same
                split at same <;> cases same
              · intro kept
                obtain ⟨_, same, truthy⟩ := kept _ rfl
                cases same
                rw [anyValue] at truthy
                cases truthy

theorem keyWrappingData_eq_iff
    {data : Option KeyWrappingData} {columns : KeyWrappingColumns}
    (built : buildKeyWrappingData data = .ok columns) :
    columns.keyWrappingData = data ↔
      ∀ present, data = some present → present.Kept := by
  cases data with
  | none =>
      cases built
      simp [KeyWrappingColumns.keyWrappingData,
        KeyInformationColumns.keyInformation, CryptographicParameters.anyValue,
        truthyText, truthyInt, truthyBytes]
  | some present =>
      obtain ⟨encryption, builtEncryption, rest⟩ :=
        except_bind_ok_iff.mp built
      obtain ⟨macSignature, builtMacSignature, returned⟩ :=
        except_bind_ok_iff.mp rest
      cases returned
      have encryptionKept := keyInformation_eq_iff builtEncryption
      have macSignatureKept := keyInformation_eq_iff builtMacSignature
      constructor
      · intro same _ isPresent
        cases isPresent
        simp only [KeyWrappingColumns.keyWrappingData] at same
        split at same
        · rename_i filled
          have fields := Option.some.inj same
          have sameEncryption : encryption.keyInformation =
              present.encryptionKeyInformation :=
            congrArg KeyWrappingData.encryptionKeyInformation fields
          have sameMacSignature : macSignature.keyInformation =
              present.macSignatureKeyInformation :=
            congrArg KeyWrappingData.macSignatureKeyInformation fields
          refine ⟨encryptionKept.mp sameEncryption,
            macSignatureKept.mp sameMacSignature, ?_⟩
          simpa only [KeyWrappingData.anyField, sameEncryption,
            sameMacSignature] using filled
        · cases same
      · intro kept
        obtain ⟨keptEncryption, keptMacSignature, filled⟩ := kept present rfl
        unfold KeyWrappingColumns.keyWrappingData
        simp only [encryptionKept.mpr keptEncryption,
          macSignatureKept.mpr keptMacSignature]
        unfold KeyWrappingData.anyField at filled
        rw [if_pos filled]

end Wrapping

section Secrets

theorem KeyBlock.eq_of_withoutLength
    {left right : KeyBlock}
    (rest : { left with cryptographicLength := none } =
      { right with cryptographicLength := none })
    (length : left.cryptographicLength = right.cryptographicLength) :
    left = right := by
  rcases left with ⟨_, _, _, _, _, _⟩
  rcases right with ⟨_, _, _, _, _, _⟩
  cases rest
  cases length
  rfl

namespace CoreSecret

/-- The key block of a secret that is a key. -/
def keyBlock? : CoreSecret → Option KeyBlock
  | .symmetricKey keyBlock => some keyBlock
  | .publicKey keyBlock => some keyBlock
  | .privateKey keyBlock => some keyBlock
  | .splitKey _ keyBlock => some keyBlock
  | _ => none

def mapKeyBlock (change : KeyBlock → KeyBlock) : CoreSecret → CoreSecret
  | .symmetricKey keyBlock => .symmetricKey (change keyBlock)
  | .publicKey keyBlock => .publicKey (change keyBlock)
  | .privateKey keyBlock => .privateKey (change keyBlock)
  | .splitKey fields keyBlock => .splitKey fields (change keyBlock)
  | other => other

def length? (secret : CoreSecret) : Option Int :=
  secret.keyBlock?.bind KeyBlock.cryptographicLength

def format? (secret : CoreSecret) : Option KeyFormatType :=
  secret.keyBlock?.map KeyBlock.keyFormatType

def withoutLength : CoreSecret → CoreSecret :=
  mapKeyBlock fun keyBlock => { keyBlock with cryptographicLength := none }

def objectType : CoreSecret → ObjectType
  | .certificate _ _ => .certificate
  | .symmetricKey _ => .symmetricKey
  | .publicKey _ => .publicKey
  | .privateKey _ => .privateKey
  | .splitKey _ _ => .splitKey
  | .template => .template
  | .secretData _ _ => .secretData
  | .opaqueObject _ _ => .opaqueData

/-- A secret is its length and the rest. -/
theorem eq_iff_withoutLength (left right : CoreSecret) :
    left = right ↔
      left.withoutLength = right.withoutLength ∧ left.length? = right.length? := by
  constructor
  · rintro rfl
    exact ⟨rfl, rfl⟩
  · rintro ⟨rest, length⟩
    cases left <;> cases right <;>
      simp only [withoutLength, mapKeyBlock, reduceCtorEq, symmetricKey.injEq,
        publicKey.injEq, privateKey.injEq, splitKey.injEq] at rest
    case symmetricKey.symmetricKey =>
      exact congrArg _ (KeyBlock.eq_of_withoutLength rest length)
    case publicKey.publicKey =>
      exact congrArg _ (KeyBlock.eq_of_withoutLength rest length)
    case privateKey.privateKey =>
      exact congrArg _ (KeyBlock.eq_of_withoutLength rest length)
    case splitKey.splitKey =>
      obtain ⟨rfl, rest⟩ := rest
      exact congrArg _ (KeyBlock.eq_of_withoutLength rest length)
    case template.template => rfl
    all_goals exact rest

end CoreSecret

/-- A key block without the fields that have no column. -/
structure KeyBlock.Kept (keyBlock : KeyBlock) : Prop where
  uncompressed : keyBlock.keyCompressionType = none
  unattributed : keyBlock.keyValue.attributes = []
  wrapping : ∀ data, keyBlock.keyWrappingData = some data → data.Kept

/-- The key block that Get makes for secret data. -/
def secretDataBlock (value : Bytes) : KeyBlock where
  keyFormatType := .opaqueBytes
  keyValue := { keyMaterial := value }
  cryptographicAlgorithm := none
  cryptographicLength := none
  keyWrappingData := none

def CoreSecret.Kept : CoreSecret → Prop
  | .symmetricKey keyBlock => keyBlock.Kept
  | .publicKey keyBlock => keyBlock.Kept
  | .privateKey keyBlock => keyBlock.Kept
  | .splitKey _ keyBlock => keyBlock.Kept
  | .secretData _ keyBlock =>
      keyBlock = secretDataBlock keyBlock.keyValue.keyMaterial
  | _ => True

theorem keyBlock_withoutLength_iff
    {keyBlock : KeyBlock} {algorithm : CryptographicAlgorithm} {length : Int}
    {wrapping : KeyWrappingColumns}
    (read : keyBlockFields keyBlock = .ok (algorithm, length, wrapping)) :
    ({ KeyFields.keyBlock ⟨algorithm, length, keyBlock.keyFormatType, wrapping⟩
        keyBlock.keyValue.keyMaterial with cryptographicLength := none } =
      { keyBlock with cryptographicLength := none } ↔ keyBlock.Kept) ∧
      keyBlock.cryptographicLength = some length := by
  obtain ⟨readAlgorithm, hasAlgorithm, rest⟩ := except_bind_ok_iff.mp read
  obtain ⟨readLength, hasLength, rest⟩ := except_bind_ok_iff.mp rest
  obtain ⟨columns, built, returned⟩ := except_bind_ok_iff.mp rest
  cases returned
  have wrappingKept := keyWrappingData_eq_iff built
  rcases keyBlock with ⟨format, compression, ⟨material, attributes⟩, algorithm?,
    length?, data⟩
  cases algorithm? <;> cases hasAlgorithm
  cases length? <;> cases hasLength
  refine ⟨?_, rfl⟩
  constructor
  · intro same
    injection same with _ uncompressed keyValue _ _ sameWrapping
    injection keyValue with _ unattributed
    exact ⟨uncompressed.symm, unattributed.symm, wrappingKept.mp sameWrapping⟩
  · rintro ⟨uncompressed, unattributed, kept⟩
    simp only at uncompressed unattributed kept
    subst uncompressed unattributed
    simp only [KeyFields.keyBlock, wrappingKept.mpr kept]

theorem newPublicKey_eq_ok
    {algorithm : CryptographicAlgorithm} {length : Int} {value : Bytes}
    {formatType : KeyFormatType} {wrapping : KeyWrappingColumns}
    {managedObject : ManagedObject}
    (built : newPublicKey algorithm length value formatType wrapping =
      .ok managedObject) :
    buildCoreObject managedObject = .publicKey
      (KeyFields.keyBlock ⟨algorithm, length, formatType, wrapping⟩ value) := by
  unfold newPublicKey at built
  split at built
  · cases built
    rfl
  · cases built

theorem newPrivateKey_eq_ok
    {algorithm : CryptographicAlgorithm} {length : Int} {value : Bytes}
    {formatType : KeyFormatType} {wrapping : KeyWrappingColumns}
    {managedObject : ManagedObject}
    (built : newPrivateKey algorithm length value formatType wrapping =
      .ok managedObject) :
    buildCoreObject managedObject = .privateKey
      (KeyFields.keyBlock ⟨algorithm, length, formatType, wrapping⟩ value) := by
  unfold newPrivateKey at built
  split at built
  · cases built
    rfl
  · cases built

theorem newSymmetricKey_eq_ok
    {algorithm : CryptographicAlgorithm} {length : Int} {value : Bytes}
    {wrapping : KeyWrappingColumns} {managedObject : ManagedObject}
    (built : newSymmetricKey algorithm length value wrapping =
      .ok managedObject) :
    buildCoreObject managedObject = .symmetricKey
      (KeyFields.keyBlock ⟨algorithm, length, .raw, wrapping⟩ value) := by
  unfold newSymmetricKey at built
  split at built
  · cases built
  · cases built
    rfl

/-- The way through the storage model, but for the length. -/
theorem convert_withoutLength_iff
    {secret : CoreSecret} {converted : ManagedObject}
    (built : convert secret = .ok converted) :
    ((buildCoreObject converted).withoutLength = secret.withoutLength ↔
        secret.Kept) ∧
      (buildCoreObject converted).length? = secret.length? ∧
      (buildCoreObject converted).format? = secret.format? ∧
      converted.objectType = secret.objectType := by
  cases secret with
  | symmetricKey keyBlock =>
      obtain ⟨⟨algorithm, length, wrapping⟩, read, rest⟩ :=
        except_bind_ok_iff.mp built
      obtain ⟨key, constructed, rest⟩ := except_bind_ok_iff.mp rest
      obtain ⟨kept, hasLength⟩ := keyBlock_withoutLength_iff read
      have shape := newSymmetricKey_eq_ok constructed
      have origin := newSymmetricKey_origin constructed
      split at rest
      · rename_i isRaw
        cases rest
        rw [← isRaw] at shape
        rw [shape]
        refine ⟨?_, ?_, rfl, congrArg ManagedObject.Origin.objectType origin⟩
        · simpa [CoreSecret.withoutLength, CoreSecret.mapKeyBlock,
          CoreSecret.Kept] using kept
        · exact hasLength.symm
      · cases rest
  | publicKey keyBlock =>
      obtain ⟨⟨algorithm, length, wrapping⟩, read, rest⟩ :=
        except_bind_ok_iff.mp built
      obtain ⟨kept, hasLength⟩ := keyBlock_withoutLength_iff read
      rw [newPublicKey_eq_ok rest]
      refine ⟨?_, hasLength.symm, rfl, ?_⟩
      · simpa [CoreSecret.withoutLength, CoreSecret.mapKeyBlock,
          CoreSecret.Kept] using kept
      · change newPublicKey _ _ _ _ _ = _ at rest
        unfold newPublicKey at rest
        split at rest
        · cases rest
          rfl
        · cases rest
  | privateKey keyBlock =>
      obtain ⟨⟨algorithm, length, wrapping⟩, read, rest⟩ :=
        except_bind_ok_iff.mp built
      obtain ⟨kept, hasLength⟩ := keyBlock_withoutLength_iff read
      rw [newPrivateKey_eq_ok rest]
      refine ⟨?_, hasLength.symm, rfl, ?_⟩
      · simpa [CoreSecret.withoutLength, CoreSecret.mapKeyBlock,
          CoreSecret.Kept] using kept
      · change newPrivateKey _ _ _ _ _ = _ at rest
        unfold newPrivateKey at rest
        split at rest
        · cases rest
          rfl
        · cases rest
  | splitKey fields keyBlock =>
      obtain ⟨⟨algorithm, length, wrapping⟩, read, rest⟩ :=
        except_bind_ok_iff.mp built
      obtain ⟨kept, hasLength⟩ := keyBlock_withoutLength_iff read
      cases rest
      refine ⟨?_, hasLength.symm, rfl, rfl⟩
      simpa [CoreSecret.withoutLength, CoreSecret.mapKeyBlock, buildCoreObject,
        newSplitKey, CoreSecret.Kept] using kept
  | certificate certificateType certificateValue =>
      simp only [convert] at built
      split at built
      · rename_i isX509
        cases built
        refine ⟨?_, rfl, rfl, rfl⟩
        simp [CoreSecret.withoutLength, CoreSecret.mapKeyBlock, buildCoreObject,
          newX509Certificate, CoreSecret.Kept, isX509]
      · cases built
  | secretData secretDataType keyBlock =>
      cases built
      refine ⟨?_, rfl, rfl, rfl⟩
      simp only [CoreSecret.withoutLength, CoreSecret.mapKeyBlock,
        buildCoreObject, newSecretData, CoreSecret.Kept, secretDataBlock,
        CoreSecret.secretData.injEq, true_and]
      exact eq_comm
  | opaqueObject opaqueDataType opaqueDataValue =>
      cases built
      refine ⟨?_, rfl, rfl, rfl⟩
      simp [CoreSecret.withoutLength, CoreSecret.mapKeyBlock, buildCoreObject,
        newOpaqueObject, CoreSecret.Kept]
  | template => cases built

end Secrets

section Templates

/-- What of an object reaches a core secret, but for the length. -/
def ManagedObject.secret (managedObject : ManagedObject) : CoreSecret :=
  (buildCoreObject managedObject).withoutLength

def ManagedObject.length? (managedObject : ManagedObject) : Option Int :=
  (buildCoreObject managedObject).length?

theorem length?_eq_keyFields (managedObject : ManagedObject) :
    managedObject.length? =
      managedObject.keyFields?.map KeyFields.cryptographicLength := by
  rcases managedObject with ⟨_, _, _, _, _, _, _, _, ⟨kind, _, _⟩ | _ | _ | _⟩
  · cases kind <;> rfl
  all_goals rfl

theorem secret_setLength (managedObject : ManagedObject) (length : Int) :
    (managedObject.mapKeyFields fun fields =>
      { fields with cryptographicLength := length }).secret =
        managedObject.secret := by
  rcases managedObject with ⟨_, _, _, _, _, _, _, _, ⟨kind, _, _⟩ | _ | _ | _⟩
  · cases kind <;> rfl
  all_goals rfl

theorem keyFields?_setLength (managedObject : ManagedObject) (length : Int) :
    (managedObject.mapKeyFields fun fields =>
      { fields with cryptographicLength := length }).keyFields? =
        managedObject.keyFields?.map fun fields =>
          { fields with cryptographicLength := length } := by
  rcases managedObject with ⟨_, _, _, _, _, _, _, _, ⟨kind, _, _⟩ | _ | _ | _⟩
  all_goals rfl

theorem buildCoreObject_setMasks
    (managedObject : ManagedObject) (masks : List CryptographicUsageMask) :
    buildCoreObject (managedObject.mapCryptographic fun fields =>
      { fields with cryptographicUsageMasks := masks }) =
        buildCoreObject managedObject := by
  rcases managedObject with ⟨_, _, _, _, _, _, _, _, ⟨kind, _, _⟩ | _ | _ | _⟩
  · cases kind <;> rfl
  all_goals rfl

variable {managedObject : ManagedObject}

/-- Two objects from which the same secret is built. -/
structure SameSecret (before after : ManagedObject) : Prop where
  secret : after.secret = before.secret
  length : after.length? = before.length?

theorem SameSecret.of_buildCoreObject
    {before after : ManagedObject}
    (same : buildCoreObject after = buildCoreObject before) :
    SameSecret before after :=
  ⟨congrArg CoreSecret.withoutLength same, congrArg CoreSecret.length? same⟩

theorem SameSecret.refl (managedObject : ManagedObject) :
    SameSecret managedObject managedObject := ⟨rfl, rfl⟩

theorem setField_sameSecret
    [DecidableEq τ] (attributeName : AttributeName)
    (existing : ManagedObject → Except PyError τ) (truthy : τ → Bool)
    {assign : τ → ManagedObject → ManagedObject} {value : τ}
    (assigned : buildCoreObject (assign value managedObject) =
      buildCoreObject managedObject) :
    ReturnsIn (SameSecret managedObject) managedObject
      (setField attributeName existing truthy assign value) := by
  unfold setField
  apply ReturnsIn.get
  apply ReturnsIn.fromExcept
  intro existingValue _
  apply ReturnsIn.ite
  · intro _
    exact .raiseIfLast fun _ => .refl managedObject
  · intro _
    exact .set (.of_buildCoreObject assigned)

/-- An algorithm can only be set again to itself. -/
theorem setAlgorithm_sameSecret
    (attributeName : AttributeName) (algorithm : CryptographicAlgorithm)
    (existing : ManagedObject → Except PyError CryptographicAlgorithm)
    (assign : CryptographicAlgorithm → ManagedObject → ManagedObject) :
    ReturnsIn (SameSecret managedObject) managedObject
      (setField attributeName existing (fun _ => true) assign algorithm) := by
  unfold setField
  apply ReturnsIn.get
  apply ReturnsIn.fromExcept
  intro existingValue _
  exact .raiseIfLast fun _ => .refl managedObject

theorem setMultivaluedAttribute_sameSecret
    (attributeName : AttributeName) (values : List AttributeValue) :
    ReturnsIn (SameSecret managedObject) managedObject
      (setMultivaluedAttribute attributeName values) := by
  unfold setMultivaluedAttribute
  split
  · apply ReturnsIn.fromExcept
    intro names _
    have extended : ReturnsIn (ε := PyError) (SameSecret managedObject) managedObject
        (modify fun managedObject => { managedObject with
          names := managedObject.names ++ names.map Name.nameValue }) :=
      .modify (.of_buildCoreObject rfl)
    exact .bind extended fun _ _ same => .get (.raiseIfLast fun _ => same)
  · exact .fromExcept fun infos _ => .modify (.of_buildCoreObject rfl)
  · exact .fromExcept fun groups _ => .modify (.of_buildCoreObject rfl)
  · exact .raise _

/-- The length that an attribute of a template asks for. -/
def lengthOf : AttributeName × TemplateValue → Option Int
  | (.cryptographicLength, .single (.integer length)) => some length
  | _ => none

/-- What setting one attribute of a template makes of an object. -/
inductive TemplateStep (entry : AttributeName × TemplateValue)
    (before after : ManagedObject) : Prop where
  | keep (same : SameSecret before after)
      (agrees : ∀ length, lengthOf entry = some length →
        length = 0 ∨ before.length? = some length)
  | lengthen (length : Int) (asked : lengthOf entry = some length)
      (positive : length ≠ 0) (same : after.secret = before.secret)
      (zero : before.length? = some 0) (longer : after.length? = some length)

theorem TemplateStep.of_other
    {entry : AttributeName × TemplateValue} {before after : ManagedObject}
    (other : entry.1 ≠ .cryptographicLength) (same : SameSecret before after) :
    TemplateStep entry before after := by
  apply TemplateStep.keep same
  intro length asked
  unfold lengthOf at asked
  split at asked
  · exact absurd rfl other
  · cases asked

theorem setLength_step
    (attributeName : AttributeName) (length : Int) :
    ReturnsIn
      (TemplateStep (.cryptographicLength, .single (.integer length))
        managedObject)
      managedObject
      (setField attributeName
        (fun managedObject => KeyFields.cryptographicLength <$>
          getattr managedObject.keyFields?)
        (· ≠ 0)
        (fun length managedObject => managedObject.mapKeyFields fun fields =>
          { fields with cryptographicLength := length })
        length) := by
  unfold setField
  apply ReturnsIn.get
  apply ReturnsIn.fromExcept
  intro existing read
  change KeyFields.cryptographicLength <$> getattr managedObject.keyFields? =
    .ok existing at read
  have stored : managedObject.length? = some existing := by
    rw [length?_eq_keyFields]
    cases fields : managedObject.keyFields? with
    | none =>
        rw [fields] at read
        cases read
    | some keyFields =>
        rw [fields] at read
        cases read
        rfl
  apply ReturnsIn.ite
  · intro _
    apply ReturnsIn.raiseIfLast
    intro same
    have same : existing = length := not_not.mp same
    subst same
    apply TemplateStep.keep (.refl managedObject)
    intro asked isAsked
    cases isAsked
    exact .inr stored
  · intro isZero
    have isZero : existing = 0 := by simpa using isZero
    subst isZero
    apply ReturnsIn.set
    have assigned : (managedObject.mapKeyFields fun fields =>
        { fields with cryptographicLength := length }).length? =
        some length := by
      rw [length?_eq_keyFields] at stored ⊢
      rw [keyFields?_setLength]
      cases fields : managedObject.keyFields? with
      | none =>
          rw [fields] at stored
          cases stored
      | some keyFields => rfl
    by_cases positive : length = 0
    · subst positive
      apply TemplateStep.keep ⟨secret_setLength managedObject 0, ?_⟩
      · intro asked isAsked
        cases isAsked
        exact .inl rfl
      · rw [assigned, stored]
    · exact .lengthen length rfl positive (secret_setLength managedObject length)
        stored assigned

theorem setSingleValuedAttribute_step
    (attributeName : AttributeName) (attributeValue : AttributeValue) :
    ReturnsIn (TemplateStep (attributeName, .single attributeValue)
      managedObject) managedObject
      (setSingleValuedAttribute attributeName attributeValue) := by
  have other : ∀ {attributeName : AttributeName} {body : ObjectM Unit},
      attributeName ≠ .cryptographicLength →
      ReturnsIn (SameSecret managedObject) managedObject body →
      ReturnsIn (TemplateStep (attributeName, .single attributeValue)
        managedObject) managedObject body :=
    fun differs returns result after ran =>
      .of_other differs (returns result after ran)
  unfold setSingleValuedAttribute
  split
  · exact .fromExcept fun algorithm _ =>
      other nofun (setAlgorithm_sameSecret _ _ _ _)
  · apply ReturnsIn.fromExcept
    intro length named
    cases attributeValue <;> cases named
    exact setLength_step _ length
  · exact .fromExcept fun mask _ =>
      other nofun (setField_sameSecret _ _ _ (buildCoreObject_setMasks _ _))
  · exact .fromExcept fun policyName _ =>
      other nofun (setField_sameSecret _ _ _ rfl)
  · exact .fromExcept fun sensitive _ =>
      other nofun (setField_sameSecret _ _ _ rfl)
  · exact .raise _

theorem setApplicableAttribute_step (entry : AttributeName × TemplateValue) :
    ReturnsIn (TemplateStep entry managedObject) managedObject
      (setApplicableAttribute entry) := by
  rcases entry with ⟨attributeName, attributeValue⟩
  unfold setApplicableAttribute setAttributeOnManagedObject
  refine .get (.fromExcept fun applicable _ => .ite (fun _ => ?_) fun _ =>
    .raise _)
  apply ReturnsIn.fromExcept
  intro multivalued cardinality
  apply ReturnsIn.ite
  · intro several
    rw [several] at cardinality
    refine .fromExcept fun values _ => fun result after ran => ?_
    apply TemplateStep.of_other
    · rintro rfl
      cases cardinality
    · exact setMultivaluedAttribute_sameSecret attributeName values result after
        ran
  · intro _
    apply ReturnsIn.fromExcept
    intro value isSingle
    cases attributeValue <;> cases isSingle
    exact setSingleValuedAttribute_step attributeName value

/-- A template does not replace a length of zero by another one. -/
def KeepsLength (length : Option Int) (attributes : ObjectAttributes) : Prop :=
  length = some 0 → ∀ entry ∈ attributes, ∀ asked,
    lengthOf entry = some asked → asked = 0

/-- A template leaves the secret alone, and its length unless that is zero. -/
theorem setAttributesOnManagedObject_secret
    (attributes : ObjectAttributes) {managedObject : ManagedObject} :
    ReturnsIn (fun after => after.secret = managedObject.secret ∧
        (after.length? = managedObject.length? ↔
          KeepsLength managedObject.length? attributes))
      managedObject (setAttributesOnManagedObject attributes) := by
  unfold setAttributesOnManagedObject
  induction attributes generalizing managedObject with
  | nil =>
      apply ReturnsIn.pure
      exact ⟨rfl, fun _ _ _ member => absurd member List.not_mem_nil,
        fun _ => rfl⟩
  | cons entry rest ih =>
      refine ReturnsIn.bind (setApplicableAttribute_step entry) ?_
      intro _ middle step result after ran
      obtain ⟨sameRest, lengthRest⟩ := ih result after ran
      cases step with
      | keep same agrees =>
          refine ⟨sameRest.trans same.secret, ?_⟩
          rw [same.length] at lengthRest
          rw [lengthRest]
          constructor
          · intro keeps isZero other member asked isAsked
            rcases List.mem_cons.mp member with rfl | later
            · rcases agrees asked isAsked with zero | agreed
              · exact zero
              · rw [isZero] at agreed
                exact (Option.some.inj agreed).symm
            · exact keeps isZero other later asked isAsked
          · exact fun keeps isZero other later =>
              keeps isZero other (.tail _ later)
      | lengthen length asked positive same zero longer =>
          refine ⟨sameRest.trans same, ?_⟩
          rw [longer] at lengthRest
          have kept : after.length? = some length :=
            lengthRest.mpr fun isZero =>
              absurd (Option.some.inj isZero) positive
          rw [kept, zero]
          constructor
          · exact fun isZero => absurd (Option.some.inj isZero) positive
          · exact fun keeps =>
              absurd (keeps rfl entry (.head _) length asked) positive

end Templates

section Registering

/-- A secret that the way through the store returns as it was. -/
structure Returnable (attributes : ObjectAttributes) (secret : CoreSecret) :
    Prop where
  kept : secret.Kept
  length : KeepsLength secret.length? attributes

/-- What the row of a registered secret has in common with it. -/
structure Registered (attributes : ObjectAttributes) (secret : CoreSecret)
    (managedObject : ManagedObject) : Prop where
  returned : buildCoreObject managedObject = secret ↔
    Returnable attributes secret
  objectType : managedObject.objectType = secret.objectType
  format : managedObject.keyFields?.map KeyFields.keyFormatType = secret.format?
  value : ∀ keyBlock, secret = .symmetricKey keyBlock →
    managedObject.value = keyBlock.keyValue.keyMaterial

theorem format?_eq_keyFields (managedObject : ManagedObject) :
    (buildCoreObject managedObject).format? =
      managedObject.keyFields?.map KeyFields.keyFormatType := by
  rcases managedObject with ⟨_, _, _, _, _, _, _, _, ⟨kind, _, _⟩ | _ | _ | _⟩
  · cases kind <;> rfl
  all_goals rfl

theorem buildCoreObject_immutable (managedObject : ManagedObject) :
    buildCoreObject managedObject.immutable = buildCoreObject managedObject := by
  rcases managedObject with ⟨_, _, _, _, _, _, _, _, ⟨kind, _, _⟩ | _ | _ | _⟩
  · cases kind <;> rfl
  all_goals rfl

theorem Registered.of_immutable_eq
    {attributes : ObjectAttributes} {secret : CoreSecret}
    {managedObject other : ManagedObject}
    (registered : Registered attributes secret managedObject)
    (same : other.immutable = managedObject.immutable) :
    Registered attributes secret other := by
  have sameSecret : buildCoreObject other = buildCoreObject managedObject :=
    ManagedObject.eq_of_immutable_eq buildCoreObject_immutable same
  have sameType : other.objectType = managedObject.objectType :=
    ManagedObject.eq_of_immutable_eq ManagedObject.objectType_immutable same
  have sameFields : other.keyFields? = managedObject.keyFields? :=
    ManagedObject.eq_of_immutable_eq ManagedObject.keyFields?_immutable same
  have sameValue : other.value = managedObject.value :=
    ManagedObject.eq_of_immutable_eq (fun _ => rfl) same
  constructor
  · rw [sameSecret]
    exact registered.returned
  · rw [sameType]
    exact registered.objectType
  · rw [sameFields]
    exact registered.format
  · rw [sameValue]
    exact registered.value

theorem registered_of_completeObject
    {world : World} {clientIdentity : ClientIdentity}
    {attributes : ObjectAttributes} {secret : CoreSecret}
    {converted completed : ManagedObject}
    (built : convert secret = .ok converted)
    (ran : completeObject world clientIdentity attributes converted =
      .ok completed) :
    Registered attributes secret (DataStore.withColumnDefaults completed) := by
  obtain ⟨kept, length, format, objectType⟩ := convert_withoutLength_iff built
  have origin := completeObject_origin ran
  constructor
  · unfold completeObject onNewObject at ran
    split at ran
    · rename_i changed setAll
      obtain ⟨same, lengthKept⟩ :=
        setAttributesOnManagedObject_secret attributes _ _ setAll
      cases ran
      have sameSecret : (buildCoreObject changed).withoutLength =
          (buildCoreObject converted).withoutLength := same
      have lengthIff : (buildCoreObject changed).length? =
          (buildCoreObject converted).length? ↔
            KeepsLength (buildCoreObject converted).length? attributes :=
        lengthKept
      rw [length] at lengthIff
      show buildCoreObject changed = secret ↔ _
      rw [CoreSecret.eq_iff_withoutLength, sameSecret, kept, lengthIff]
      exact ⟨fun ⟨kept, length⟩ => ⟨kept, length⟩,
        fun ⟨kept, length⟩ => ⟨kept, length⟩⟩
    · cases ran
  · exact (congrArg ManagedObject.Origin.objectType origin).trans objectType
  · rw [← format, format?_eq_keyFields]
    exact congrArg ManagedObject.Origin.keyFormatType origin
  · rintro keyBlock rfl
    have converted_origin := convert_symmetricKey_origin built
    exact (congrArg ManagedObject.Origin.value origin).trans
      (congrArg ManagedObject.Origin.value converted_origin)

variable {start : EngineState} {exchanges : List Exchange}
  {prior middle later : List Execution} {execution next : Execution}
  {payload : RegisterRequestPayload} {secret : CoreSecret}

/-- A flushed object is the row under the next key. -/
theorem lookup_of_flush
    {state after : EngineState} {dataStore : DataStore}
    {rows : Table ManagedObject} {managedObject : ManagedObject}
    {idPlaceholder : Option String} {reply : ResponsePayload}
    {response : ResponsePayload} (session : dataStore.session = rows)
    (flushes : state.flush (dataStore.add managedObject) idPlaceholder reply =
      .ok response after) :
    after.dataStore.committed.lookup rows.next =
      some (DataStore.withColumnDefaults managedObject) := by
  obtain ⟨_, commits, _⟩ := flush_eq_ok flushes
  rw [commits.committed]
  show (dataStore.session.insert _).lookup _ = _
  rw [session]
  exact Table.lookup_insert_next _ _

/-- The row that Register adds. -/
theorem registered_of_succeeded
    (clean : execution.before.Clean)
    (registers : execution.payload = .register payload)
    (given : payload.managedObject = some secret)
    (succeeded : execution.Succeeded) :
    ∃ attributes managedObject,
      processOptionalTemplate execution.before.protocolVersion
        payload.templateAttribute = .ok attributes ∧
      execution.rowsAfter.lookup execution.rowsBefore.next =
        some managedObject ∧
      Registered attributes secret managedObject := by
  obtain ⟨response, outcome⟩ := Execution.outcome_of_succeeded succeeded
  have ran := Execution.result_of_outcome_ok outcome
  unfold Execution.result at ran
  rw [registers, processOperation_follows] at ran
  obtain ⟨_, ran⟩ := Plan.run_refuseIf_ok_iff.mp ran
  obtain ⟨_, ran⟩ := Plan.run_refuseIf_ok_iff.mp ran
  obtain ⟨present, isPresent, ran⟩ := Plan.run_ofExcept_ok_iff.mp ran
  obtain ⟨attributes, processed, ran⟩ := Plan.run_ofExcept_ok_iff.mp ran
  obtain ⟨converted, _, ran⟩ := Plan.run_ofExcept_ok_iff.mp ran
  obtain ⟨completed, _, ran⟩ := Plan.run_ofExcept_ok_iff.mp ran
  rw [given] at isPresent
  cases isPresent
  exact ⟨attributes, DataStore.withColumnDefaults completed.1, processed,
    lookup_of_flush clean ran,
    registered_of_completeObject converted.2 completed.2⟩

end Registering

section Getting

/-- A lookup for GET returns these very bytes. -/
def Retrieves (execution : Execution) (secret : CoreSecret) : Prop :=
  execution.before.dataStore.active = true ∧
    (execution.world.osRegionName = true →
      ∀ keyBlock, secret = .symmetricKey keyBlock →
        execution.world.secretsAvailable = true ∧
          execution.before.barbican.retriveSecret keyBlock.keyValue.keyMaterial =
            .ok keyBlock.keyValue.keyMaterial)

variable {next : Execution} {attributes : ObjectAttributes}
  {secret : CoreSecret} {stored : StoredObject} {request : GetRequestPayload}

theorem retrievedCopy_eq_ok
    {world : World} {state : EngineState} {loaded : StoredObject}
    (copied : retrievedCopy world state stored = .ok loaded) :
    ∃ value, loaded = { stored with
      managedObject := { stored.managedObject with value := value } } := by
  unfold retrievedCopy at copied
  split at copied
  · split at copied
    · obtain ⟨value, _, returned⟩ := except_bind_ok_iff.mp copied
      cases returned
      exact ⟨value, rfl⟩
    · cases copied
  · cases copied
    exact ⟨stored.managedObject.value, rfl⟩

/-- How a permitted Get without wrapping answers. -/
theorem outcome_get
    (asks : next.payload = .get request)
    (listed : ⟨1, 0⟩ ≤ next.before.protocolVersion)
    (uncompressed : request.keyCompressionType = none)
    (unwrapped : request.keyWrappingSpecification = none)
    (formatted : checkKeyFormat stored.managedObject request.keyFormatType =
      .ok ())
    (found : next.finds next.target = some stored)
    (permitted : next.Permits stored.managedObject) :
    next.outcome =
      if next.before.dataStore.active = false then
        .error (.python .pendingRollbackError)
      else do
        let loaded ← retrievedCopy next.world next.before stored
        return .get loaded.managedObject.objectType next.target
          (buildCoreObject loaded.managedObject) := by
  have target : next.before.context.payloadOrPlaceholder
      request.uniqueIdentifier = next.target := by
    unfold Execution.target
    rw [asks]
    rfl
  have located : findObject next.world next.before next.target = some stored :=
    found
  have permits : isPermitted next.world next.before.clientIdentity .get
      stored.managedObject = true := by
    unfold Execution.Permits at permitted
    rwa [asks] at permitted
  have loads : access next.world next.before next.target .get =
      if next.before.dataStore.active = false then
        .error (.python .pendingRollbackError)
      else retrievedCopy next.world next.before stored := by
    unfold access
    rw [located]
    split
    · rfl
    · cases copied : retrievedCopy next.world next.before stored with
      | error exception => simp [loadedCopy, copied, bind, Except.bind]
      | ok loaded =>
          have stillPermitted : isPermitted next.world
              next.before.clientIdentity .get loaded.managedObject = true := by
            obtain ⟨value, rfl⟩ := retrievedCopy_eq_ok copied
            exact permits
          simp [loadedCopy, copied, bind, Except.bind, pure, Except.pure,
            stillPermitted]
  unfold Execution.outcome Execution.result
  rw [asks, processOperation_follows]
  have supported : ⟨1, 0⟩ ≤ next.before.context.protocolVersion := listed
  simp only [plan, planGet, Plan.supportedSince, Plan.refuseIf, supported,
    not_true, if_false, uncompressed, Option.isSome_none, Bool.false_eq_true,
    unwrapped, target, Plan.run, RequestPayload.accessCode,
    RequestPayload.operation, loads]
  cases next.before.dataStore.active with
  | false => rfl
  | true =>
      simp only [Bool.true_eq_false, if_false]
      cases copied : retrievedCopy next.world next.before stored with
      | error exception => rfl
      | ok loaded =>
          have loadedFormat : checkKeyFormat loaded.managedObject
              request.keyFormatType = .ok () := by
            obtain ⟨value, rfl⟩ := retrievedCopy_eq_ok copied
            exact formatted
          simp only [loadedFormat, Plan.ofExcept]
          rfl

theorem symmetricKey_of_objectType
    {secret : CoreSecret} (symmetric : secret.objectType = .symmetricKey) :
    ∃ keyBlock, secret = .symmetricKey keyBlock := by
  cases secret with
  | symmetricKey keyBlock => exact ⟨keyBlock, rfl⟩
  | _ => cases symmetric

theorem keyMaterial_of_buildCoreObject
    {managedObject : ManagedObject} {keyBlock : KeyBlock}
    (built : buildCoreObject managedObject = .symmetricKey keyBlock) :
    managedObject.value = keyBlock.keyValue.keyMaterial := by
  rcases managedObject with ⟨_, _, _, _, _, _, _, _, ⟨kind, _, _⟩ | _ | _ | _⟩
  · cases kind <;> cases built
    rfl
  all_goals cases built

/-- The secret that a registered object is read back as. -/
theorem outcome_get_iff
    (asks : next.payload = .get request)
    (listed : ⟨1, 0⟩ ≤ next.before.protocolVersion)
    (uncompressed : request.keyCompressionType = none)
    (unwrapped : request.keyWrappingSpecification = none)
    (formatted : ∀ format, request.keyFormatType = some format →
      secret.format? = some format)
    (found : next.finds next.target = some stored)
    (permitted : next.Permits stored.managedObject)
    (registered : Registered attributes secret stored.managedObject) :
    next.outcome = .ok (.get secret.objectType next.target secret) ↔
      Returnable attributes secret ∧ Retrieves next secret := by
  have format : checkKeyFormat stored.managedObject request.keyFormatType =
      .ok () := by
    unfold checkKeyFormat
    have stored_format := registered.format
    cases asked : request.keyFormatType with
    | none => rfl
    | some format =>
        rw [formatted format asked] at stored_format
        cases fields : stored.managedObject.keyFields? with
        | none =>
            rw [fields] at stored_format
            cases stored_format
        | some keyFields =>
            rw [fields] at stored_format
            have same : keyFields.keyFormatType = format :=
              Option.some.inj stored_format
            simp [same]
  rw [outcome_get asks listed uncompressed unwrapped format found permitted]
  unfold Retrieves
  cases active : next.before.dataStore.active with
  | false => simp
  | true =>
      simp only [Bool.true_eq_false, if_false, true_and]
      have unretrieved : retrievedCopy next.world next.before stored =
          .ok stored →
          ((do
            let loaded ← retrievedCopy next.world next.before stored
            return ResponsePayload.get loaded.managedObject.objectType
              next.target (buildCoreObject loaded.managedObject)) =
            Except.ok (.get secret.objectType next.target secret) ↔
            Returnable attributes secret) := by
        intro copied
        rw [copied, ← registered.returned, ← registered.objectType]
        simp [bind, Except.bind, pure, Except.pure]
      by_cases retrieves : next.world.osRegionName = true ∧
          stored.managedObject.objectType = .symmetricKey
      · obtain ⟨enabled, symmetric⟩ := retrieves
        obtain ⟨keyBlock, rfl⟩ := symmetricKey_of_objectType
          (registered.objectType.symm.trans symmetric)
        have stored_value := registered.value keyBlock rfl
        have copied : retrievedCopy next.world next.before stored =
            if next.world.secretsAvailable then do
              let value ← next.before.barbican.retriveSecret
                keyBlock.keyValue.keyMaterial
              return { stored with
                managedObject := { stored.managedObject with value := value } }
            else .error (.python .runtimeError) := by
          rw [retrievedCopy, if_pos ⟨enabled, symmetric⟩, stored_value]
        cases available : next.world.secretsAvailable with
        | false =>
            rw [copied, available]
            simp [bind, Except.bind, enabled]
        | true =>
            cases retrieved : next.before.barbican.retriveSecret
                keyBlock.keyValue.keyMaterial with
            | error exception =>
                rw [copied, available, retrieved]
                simp [bind, Except.bind, enabled, retrieved]
            | ok value =>
                by_cases same : value = keyBlock.keyValue.keyMaterial
                · have unchanged : retrievedCopy next.world next.before stored =
                      .ok stored := by
                    rw [copied, available, retrieved, same, ← stored_value]
                    rfl
                  rw [unretrieved unchanged]
                  simp [retrieved, same]
                · rw [copied, available, retrieved]
                  simp only [enabled, true_implies]
                  constructor
                  · intro answered
                    exfalso
                    apply same
                    have secrets := (ResponsePayload.get.inj
                      (Except.ok.inj answered)).2.2
                    exact keyMaterial_of_buildCoreObject secrets
                  · intro both
                    have kept := (both.2 keyBlock rfl).2
                    rw [retrieved] at kept
                    exact absurd (Except.ok.inj kept) same
      · rw [unretrieved (by rw [retrievedCopy, if_neg retrieves])]
        constructor
        · intro returnable
          refine ⟨returnable, fun enabled keyBlock symmetric => ?_⟩
          subst symmetric
          exact absurd ⟨enabled, registered.objectType⟩ retrieves
        · exact fun both => both.1

end Getting

section Claims

theorem version_of_mem_history
    {state : EngineState} {exchanges : List Exchange} {execution : Execution}
    (member : execution ∈ history state exchanges) :
    execution.before.protocolVersion ∈ protocolVersions := by
  induction exchanges generalizing state with
  | nil => cases member
  | cons exchange rest ih =>
      rcases List.mem_append.mp member with now | later
      · have serves := exchange.serves_of_mem state now
        rw [serves.protocolVersion]
        by_contra unlisted
        unfold Exchange.executions checkHeader at now
        rw [if_pos unlisted] at now
        cases now
      · exact ih later

theorem oldest_le_of_mem_history
    {state : EngineState} {exchanges : List Exchange} {execution : Execution}
    (member : execution ∈ history state exchanges) :
    ⟨1, 0⟩ ≤ execution.before.protocolVersion := by
  have listed := version_of_mem_history member
  revert listed
  generalize execution.before.protocolVersion = version
  revert version
  decide

/-- What a registered object is read back as, at any later time. -/
theorem register_then_get_iff
    {start : EngineState} {exchanges : List Exchange}
    {prior later : List Execution} {execution next : Execution}
    {payload : RegisterRequestPayload} {secret : CoreSecret}
    {request : GetRequestPayload} {managedObject : ManagedObject}
    (divides : history start exchanges = prior ++ execution :: later)
    (registers : execution.payload = .register payload)
    (given : payload.managedObject = some secret)
    (accepted : execution.Succeeded)
    (follows : next ∈ later) (asks : next.payload = .get request)
    (uncompressed : request.keyCompressionType = none)
    (unwrapped : request.keyWrappingSpecification = none)
    (formatted : ∀ format, request.keyFormatType = some format →
      secret.format? = some format)
    (found : next.finds next.target =
      some ⟨execution.rowsBefore.next, managedObject⟩)
    (permitted : next.Permits managedObject) :
    next.outcome = .ok (.get secret.objectType next.target secret) ↔
      (∀ attributes, processOptionalTemplate execution.before.protocolVersion
        payload.templateAttribute = .ok attributes →
          Returnable attributes secret) ∧
      Retrieves next secret := by
  have registering : execution ∈ history start exchanges := by
    rw [divides]
    exact List.mem_append_right _ (.head _)
  have getting : next ∈ history start exchanges := by
    rw [divides]
    exact List.mem_append_right _ (.tail _ follows)
  obtain ⟨attributes, row, processed, stored, registered⟩ :=
    registered_of_succeeded (clean_of_mem_history registering) registers given
      accepted
  have confined : Confines
      (fun managedObject => managedObject.immutable = row.immutable)
      execution.rowsBefore.next execution.rowsAfter := by
    refine ⟨Table.lookup_lt_next stored, fun other found => ?_⟩
    rw [stored] at found
    cases found
    rfl
  have located := next.lookup_of_finds (clean_of_mem_history getting) found
  have same := (confines_of_later divides
    (fun _ _ _ same evolves => evolves.immutable.trans same) confined next
    follows).2 managedObject located
  have listed := oldest_le_of_mem_history getting
  rw [outcome_get_iff asks listed uncompressed unwrapped formatted found
    permitted (registered.of_immutable_eq same), processed]
  simp

section Samples

/-- A wrapped key whose wrapping key used the given parameters. -/
def wrappedKey (parameters : CryptographicParameters) : CoreSecret :=
  .symmetricKey {
    keyFormatType := .raw
    keyValue := { keyMaterial := [1, 2, 3] }
    cryptographicAlgorithm := some .aes
    cryptographicLength := some 128
    keyWrappingData := some {
      wrappingMethod := some .encrypt
      encryptionKeyInformation := some ⟨some "7", some parameters⟩
      encodingOption := some .noEncoding } }

def registration (secret : CoreSecret) : RequestBatchItem where
  uniqueBatchItemId := some [1]
  requestPayload := .register {
    objectType := .symmetricKey
    templateAttribute := none
    managedObject := some secret }

def gettingBack : RequestBatchItem where
  uniqueBatchItemId := some [2]
  requestPayload := .get { uniqueIdentifier := none }

/-- A key is registered and read back in one batch. -/
def registerThenGet (secret : CoreSecret) : Exchange :=
  sampleExchange sampleWorld "alice" [registration secret, gettingBack]

def registering (secret : CoreSecret) : Execution :=
  ⟨sampleWorld, registration secret,
    (registerThenGet secret).entering (newEngine .empty [])⟩

def readingBack (secret : CoreSecret) : Execution :=
  ⟨sampleWorld, gettingBack, (registering secret).after⟩

theorem history_registerThenGet
    (secret : CoreSecret) (accepted : (registering secret).Succeeded) :
    history (newEngine .empty []) [registerThenGet secret] =
      [] ++ registering secret :: [readingBack secret] := by
  have second : executions (fun _ => sampleWorld) true .stop 1 [gettingBack]
      (registering secret).after = [readingBack secret] := by
    simp only [executions]
    rw [if_neg (by simp [gettingBack])]
    split <;> rfl
  have both : executions (fun _ => sampleWorld) true .stop 0
      [registration secret, gettingBack] (registering secret).before =
        registering secret :: [readingBack secret] := by
    rw [executions, if_neg (by simp [registration])]
    have goesOn : ¬((registering secret).outcome.isOk = false ∧
        BatchErrorContinuationOption.stop = .stop) := by
      rintro ⟨failed, _⟩
      rw [accepted] at failed
      cases failed
    exact (if_neg goesOn).trans (congrArg (registering secret :: ·) second)
  exact (List.append_nil _).trans both

/-- The row of the wrapped key. -/
def wrappedRow (parameters : CryptographicParameters) : ManagedObject where
  value := [1, 2, 3]
  names := []
  operationPolicyName := some "default"
  owner := some "alice"
  objectClass := .key .symmetricKey {} {
    cryptographicAlgorithm := .aes
    cryptographicLength := 128
    keyFormatType := .raw
    wrapping := {
      wrappingMethod := some .encrypt
      encryptionKeyInformation := ⟨some "7", parameters⟩
      encodingOption := some .noEncoding } }

theorem register_then_get_iff_truthy :
    let secret := wrappedKey { ivLength := some 96, randomIv := some false }
    (readingBack secret).outcome =
        .ok (.get .symmetricKey (readingBack secret).target secret) ↔
      (∀ attributes, processOptionalTemplate ⟨1, 2⟩ none = .ok attributes →
        Returnable attributes secret) ∧ Retrieves (readingBack secret) secret := by
  intro secret
  have accepted : (registering secret).Succeeded := by decide
  have found : (readingBack secret).finds (readingBack secret).target =
      some ⟨1, wrappedRow { ivLength := some 96, randomIv := some false }⟩ := by
    decide
  exact register_then_get_iff (history_registerThenGet secret accepted) rfl rfl
    accepted (.head _) rfl rfl rfl nofun found (by decide)

theorem register_then_get_drops_parameters :
    ¬∀ (start : EngineState) (exchanges : List Exchange)
        (prior later : List Execution) (execution next : Execution)
        (payload : RegisterRequestPayload) (secret : CoreSecret)
        (request : GetRequestPayload) (managedObject : ManagedObject),
      history start exchanges = prior ++ execution :: later →
      execution.payload = .register payload →
      payload.managedObject = some secret → execution.Succeeded →
      next ∈ later → next.payload = .get request →
      request.keyCompressionType = none →
      request.keyWrappingSpecification = none →
      (∀ format, request.keyFormatType = some format →
        secret.format? = some format) →
      next.finds next.target =
        some ⟨execution.rowsBefore.next, managedObject⟩ →
      next.Permits managedObject →
      next.outcome = .ok (.get secret.objectType next.target secret) := by
  intro returns
  have answered := returns _ _ _ _ _ _ _
    (wrappedKey { randomIv := some false }) _
    (wrappedRow { randomIv := some false })
    (history_registerThenGet _ (by decide)) rfl rfl (by decide) (.head _) rfl
    rfl rfl nofun
    (by decide) (by decide)
  revert answered
  decide

end Samples

end Claims

end PyKMIP
