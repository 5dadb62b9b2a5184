import PyKMIP.Client.Methods
import PyKMIP.Lib.StatefulExcept

/-!
# The verdicts of the server at the client

A method that meets a response whose status is not success should raise an
operation failure with the verdict of the response.  It does so when the fields
of the batch item that it reads without asking whether they are there are there.
-/

namespace PyKMIP

open StatefulExcept

section Specification

/-- The outcome is an operation failure with the verdict of the item. -/
def ReceivedItem.ReportedBy (item : ReceivedItem)
    (outcome : Except ClientError ClientValue) : Prop :=
  ∃ error : ClientError,
    outcome = .error error ∧ error.verdict? = some item.verdict

/-- The values of the payload of a method's operation, as the method returns
them.  The secret of a Get payload is converted into a managed object. -/
inductive PayloadValues : ClientMethod → ReceivedPayload → ClientValue → Prop
  | create {objectType uid template} :
      PayloadValues .create (.create objectType uid template)
        (.identifier (some uid))
  | createKeyPair {privateUid publicUid privateTemplate publicTemplate} :
      PayloadValues .createKeyPair
        (.createKeyPair privateUid publicUid privateTemplate publicTemplate)
        (.keyPair (some publicUid) (some privateUid))
  | deleteAttribute {uid deleted} :
      PayloadValues .deleteAttribute (.deleteAttribute uid deleted)
        (.changed (some uid) deleted)
  | setAttribute {uid} :
      PayloadValues .setAttribute (.setAttribute uid) (.identifier (some uid))
  | modifyAttribute {uid modified} :
      PayloadValues .modifyAttribute (.modifyAttribute uid modified)
        (.changed (some uid) modified)
  | register {uid template} :
      PayloadValues .register (.register uid template) (.identifier (some uid))
  | rekey {uid template} :
      PayloadValues .rekey (.rekey uid template) (.identifier (some uid))
  | deriveKey {uid template} :
      PayloadValues .deriveKey (.deriveKey uid template)
        (.identifier (some uid))
  | locate {uids} :
      PayloadValues .locate (.locate uids) (.identifiers (some uids))
  | check {uid usageLimitsCount usageMask leaseTime} :
      PayloadValues .check (.check uid usageLimitsCount usageMask leaseTime)
        (.identifier uid)
  | get {objectType uid secret managedObject}
      (converted : convert secret = .ok managedObject) :
      PayloadValues .get (.get objectType uid secret)
        (.managedObject managedObject)
  | getAttributes {uid attributes} :
      PayloadValues .getAttributes (.getAttributes uid attributes)
        (.attributes (some uid) (some attributes))
  | getAttributeList {uid names} :
      PayloadValues .getAttributeList (.getAttributeList uid names)
        (.names (names.insertionSort (· ≤ ·)))
  | activate {uid} : PayloadValues .activate (.activate uid) .nothing
  | revoke {uid} : PayloadValues .revoke (.revoke uid) .nothing
  | destroy {uid} : PayloadValues .destroy (.destroy uid) .nothing
  | encrypt {uid data ivCounterNonce} :
      PayloadValues .encrypt (.encrypt uid data ivCounterNonce)
        (.encrypted (some data) ivCounterNonce)
  | decrypt {uid data} :
      PayloadValues .decrypt (.decrypt uid data) (.data (some data))
  | signatureVerify {uid validityIndicator data} :
      PayloadValues .signatureVerify
        (.signatureVerify uid validityIndicator data)
        (.validity (some validityIndicator))
  | sign {uid signatureData} :
      PayloadValues .sign (.sign uid signatureData) (.data (some signatureData))
  | mac {uid macData} : PayloadValues .mac (.mac uid macData) (.mac uid macData)

/-- The method reports the verdict of the item, and returns the values of the
payload of its operation. -/
structure ReportsVerdict (method : ClientMethod) (item : ReceivedItem)
    (outcome : Except ClientError ClientValue) : Prop where
  failure : item.resultStatus ≠ .success → item.ReportedBy outcome
  success : item.resultStatus = .success →
    ∀ payload ∈ item.responsePayload, payload.operation = method.operation →
      ∃ value, PayloadValues method payload value ∧ outcome = .ok value

end Specification

section Conditions

/-- The ways in which the methods unpack a response. -/
inductive Unpacking where
  | requestPayload | dictionary | result | processed
deriving DecidableEq

namespace ClientMethod

def unpacking : ClientMethod → Unpacking
  | deleteAttribute | setAttribute | modifyAttribute => .requestPayload
  | rekey | deriveKey | check | encrypt | decrypt | signatureVerify | sign =>
      .dictionary
  | createKeyPair | getAttributes | getAttributeList => .processed
  | create | register | locate | get | activate | revoke | destroy | mac =>
      .result

/-- The operations whose payloads have the attributes that the method reads. -/
def readableFrom : ClientMethod → List Operation
  | register | rekey | deriveKey => [.create, .register, .rekey, .deriveKey]
  | activate | revoke | destroy =>
      [.create, .register, .deriveKey, .rekey, .check, .get, .getAttributeList,
        .getAttributes, .deleteAttribute, .setAttribute, .modifyAttribute,
        .destroy, .activate, .revoke, .mac, .encrypt, .decrypt, .sign,
        .signatureVerify]
  | decrypt => [.encrypt, .decrypt, .signatureVerify]
  | method => [method.operation]

/-- The operations of which the proxy can process a batch item. -/
def processable : List Operation :=
  [.createKeyPair, .rekeyKeyPair, .getAttributes, .getAttributeList, .query,
    .discoverVersions]

/-- The item has the payload that the method reads.  Most methods ask whether
there is one; `check` and the processor of discovered versions do not. -/
def PayloadReadable (method : ClientMethod) (item : ReceivedItem) : Prop :=
  match method.unpacking with
  | .requestPayload => True
  | .processed =>
      (∀ operation ∈ item.operation, operation ∈ processable) ∧
        (item.operation = some .discoverVersions → item.responsePayload ≠ none)
  | .dictionary | .result =>
      (∀ payload ∈ item.responsePayload,
        payload.operation ∈ method.readableFrom) ∧
        (method = .check → item.responsePayload ≠ none)

/-- The item has a reason, and a message where the method reads its value. -/
def CauseReadable (method : ClientMethod) (item : ReceivedItem) : Prop :=
  item.resultReason ≠ none ∧
    (method.unpacking ≠ .dictionary → item.resultMessage ≠ none)

end ClientMethod

/-- The factory makes a managed object of the secret, if the payload has one. -/
def ReceivedPayload.Convertible (payload : ReceivedPayload) : Prop :=
  ∀ secret ∈ payload.secret?, ∃ managedObject, convert secret = .ok managedObject

end Conditions

section Failures

variable {item : ReceivedItem}

theorem ReceivedItem.not_reportedBy_raised (error : PyError) :
    ¬ item.ReportedBy (.error (.raised error)) := by
  rintro ⟨error, same, carried⟩
  cases same
  cases carried

theorem ReceivedItem.reportedBy_bind_iff
    {first : Except PyError α} {next : α → Except ClientError ClientValue} :
    item.ReportedBy (first.mapError .raised >>= next) ↔
      ∃ value, first = .ok value ∧ item.ReportedBy (next value) := by
  cases first with
  | ok value => simp [Except.mapError, bind, Except.bind]
  | error error =>
      simp [Except.mapError, bind, Except.bind, item.not_reportedBy_raised]

theorem ReceivedItem.reportedBy_kmipOperationFailure_iff :
    item.ReportedBy
        (.error (kmipOperationFailure item.resultStatus item.resultReason
          item.resultMessage)) ↔ item.resultReason ≠ none := by
  cases reason : item.resultReason with
  | none =>
      simp [kmipOperationFailure, item.not_reportedBy_raised]
  | some value =>
      simp [kmipOperationFailure, ReceivedItem.ReportedBy,
        ClientError.verdict?, ReceivedItem.verdict, reason]

theorem ReceivedItem.reportedBy_operationFailure_iff :
    item.ReportedBy (.error (KMIPProxy.operationFailure item)) ↔
      item.resultReason ≠ none ∧ item.resultMessage ≠ none := by
  cases reason : item.resultReason with
  | none =>
      simp [KMIPProxy.operationFailure, reason, item.not_reportedBy_raised]
  | some _ =>
      cases message : item.resultMessage with
      | none =>
          simp [KMIPProxy.operationFailure, reason, message,
            item.not_reportedBy_raised]
      | some _ =>
          simp [KMIPProxy.operationFailure, ReceivedItem.ReportedBy,
            ClientError.verdict?, ReceivedItem.verdict, reason, message]

namespace ProxyKmipClient

variable (failed : item.resultStatus ≠ .success)

include failed

theorem reportedBy_reportResult_iff
    (values : β → Except PyError ClientValue) (fields : β) :
    item.ReportedBy (reportResult values (item.result fields)) ↔
      item.resultReason ≠ none ∧ item.resultMessage ≠ none := by
  unfold reportResult
  rw [if_neg (by exact failed)]
  cases reason : item.resultReason with
  | none =>
      simp [ReceivedItem.result, reason, item.not_reportedBy_raised]
  | some value =>
      cases message : item.resultMessage with
      | none =>
          simp [ReceivedItem.result, reason, message,
            item.not_reportedBy_raised]
      | some text =>
          have carried := item.reportedBy_kmipOperationFailure_iff
          rw [reason, message] at carried
          simpa [ReceivedItem.result, reason, message] using carried

theorem reportedBy_reportDictionary_iff
    (values : β → ClientValue) (fields : β) :
    item.ReportedBy (reportDictionary values (item.result fields)) ↔
      item.resultReason ≠ none := by
  unfold reportDictionary
  rw [if_neg (by exact failed)]
  exact item.reportedBy_kmipOperationFailure_iff

end ProxyKmipClient

theorem ReceivedItem.readPayload_ok_iff
    {read : ReceivedPayload → Except PyError β} :
    (∃ fields, item.readPayload read = .ok fields) ↔
      ∀ payload ∈ item.responsePayload, ∃ fields, read payload = .ok fields := by
  unfold ReceivedItem.readPayload
  cases item.responsePayload with
  | none => simp
  | some payload =>
      cases outcome : read payload with
      | ok fields => simp [outcome, Functor.map, Except.map]
      | error error => simp [outcome, Functor.map, Except.map]

/-- A method that asks for the payload needs a class with the attributes that it
reads. -/
theorem reportedBy_unpack_iff
    {read : ReceivedPayload → Except PyError β}
    {report : OperationResult (Option β) → Except ClientError ClientValue}
    {cause : Prop}
    (reported : ∀ fields, item.ReportedBy (report (item.result fields)) ↔ cause) :
    item.ReportedBy
        (ProxyKmipClient.unpack (KMIPProxy.answer read) report [item]) ↔
      (∀ payload ∈ item.responsePayload, ∃ fields, read payload = .ok fields) ∧
        cause := by
  rw [← item.readPayload_ok_iff]
  unfold ProxyKmipClient.unpack
  rw [item.reportedBy_bind_iff]
  constructor
  · rintro ⟨result, answered, failure⟩
    obtain ⟨first, ⟨⟩, answered⟩ := except_bind_ok_iff.mp answered
    obtain ⟨fields, read, ⟨⟩⟩ := except_bind_ok_iff.mp answered
    exact ⟨⟨fields, read⟩, (reported fields).mp failure⟩
  · rintro ⟨⟨fields, read⟩, given⟩
    refine ⟨item.result fields, ?_, (reported fields).mpr given⟩
    exact except_bind_ok_iff.mpr ⟨item, rfl,
      except_bind_ok_iff.mpr ⟨fields, read, rfl⟩⟩

end Failures

section Readers

variable {payload : ReceivedPayload}

theorem getattr_ok_iff {field : Option α} :
    (∃ value, getattr field = .ok value) ↔ field.isSome := by
  cases field <;> simp [getattr]

namespace ReceivedPayload

theorem uniqueIdentifier?_isSome_iff :
    payload.uniqueIdentifier?.isSome ↔
      payload.operation ∈ ClientMethod.activate.readableFrom := by
  cases payload <;> simp [uniqueIdentifier?, operation, ClientMethod.readableFrom]

theorem uniqueIdentifiers?_isSome_iff :
    payload.uniqueIdentifiers?.isSome ↔
      payload.operation ∈ ClientMethod.locate.readableFrom := by
  cases payload <;> simp [uniqueIdentifiers?, operation,
    ClientMethod.readableFrom, ClientMethod.operation]

end ReceivedPayload

namespace KMIPProxy

open ReceivedPayload

theorem readCreated_ok_iff :
    (∃ fields, readCreated payload = .ok fields) ↔
      payload.operation ∈ ClientMethod.create.readableFrom := by
  cases payload <;> simp [readCreated, except_bind_ok_iff, getattr,
    uniqueIdentifier?, templateAttribute?, objectType?, operation,
    ClientMethod.readableFrom, ClientMethod.operation]

theorem readIdentified_ok_iff :
    (∃ fields, readIdentified payload = .ok fields) ↔
      payload.operation ∈ ClientMethod.register.readableFrom := by
  cases payload <;> simp [readIdentified, except_bind_ok_iff, getattr,
    uniqueIdentifier?, templateAttribute?, operation, ClientMethod.readableFrom]

theorem readRetrieved_ok_iff :
    (∃ fields, readRetrieved payload = .ok fields) ↔
      payload.operation ∈ ClientMethod.get.readableFrom := by
  cases payload <;> simp [readRetrieved, except_bind_ok_iff, getattr,
    uniqueIdentifier?, objectType?, secret?, operation,
    ClientMethod.readableFrom, ClientMethod.operation]

theorem readEncrypted_ok_iff :
    (∃ fields, readEncrypted payload = .ok fields) ↔
      payload.operation ∈ ClientMethod.encrypt.readableFrom := by
  cases payload <;> simp [readEncrypted, except_bind_ok_iff, getattr,
    uniqueIdentifier?, data?, ivCounterNonce?, operation,
    ClientMethod.readableFrom, ClientMethod.operation]

theorem readWith_ok_iff {field : Option β} :
    (∃ fields, readWith payload field = .ok fields) ↔
      payload.uniqueIdentifier?.isSome ∧ field.isSome := by
  cases first : payload.uniqueIdentifier? <;> cases field <;>
    simp [readWith, first, getattr, bind, Except.bind, pure, Except.pure]

theorem readData_ok_iff :
    (∃ fields, readWith payload payload.data? = .ok fields) ↔
      payload.operation ∈ ClientMethod.decrypt.readableFrom := by
  rw [readWith_ok_iff]
  cases payload <;> simp [uniqueIdentifier?, data?, operation,
    ClientMethod.readableFrom]

theorem readValidity_ok_iff :
    (∃ fields, readWith payload payload.validityIndicator? = .ok fields) ↔
      payload.operation ∈ ClientMethod.signatureVerify.readableFrom := by
  rw [readWith_ok_iff]
  cases payload <;> simp [uniqueIdentifier?, validityIndicator?, operation,
    ClientMethod.readableFrom, ClientMethod.operation]

theorem readSignature_ok_iff :
    (∃ fields, readWith payload payload.signatureData? = .ok fields) ↔
      payload.operation ∈ ClientMethod.sign.readableFrom := by
  rw [readWith_ok_iff]
  cases payload <;> simp [uniqueIdentifier?, signatureData?, operation,
    ClientMethod.readableFrom, ClientMethod.operation]

theorem readMac_ok_iff :
    (∃ fields, readWith payload payload.macData? = .ok fields) ↔
      payload.operation ∈ ClientMethod.mac.readableFrom := by
  rw [readWith_ok_iff]
  cases payload <;> simp [uniqueIdentifier?, macData?, operation,
    ClientMethod.readableFrom, ClientMethod.operation]

end KMIPProxy

end Readers

section Processing

variable {item : ReceivedItem}

namespace KMIPProxy

/-- A processor reads the payload of its own operation, if there is one. -/
theorem processOptional_ok
    {absent : ProcessedFields}
    {read : ReceivedPayload → Except PyError ProcessedFields}
    {operation : Operation}
    (reads : ∀ payload : ReceivedPayload, payload.operation = operation →
      ∃ fields, read payload = .ok fields)
    (known : item.operation = some operation) :
    ∃ fields, processOptional absent read item = .ok (item.result fields) := by
  have readable : ∀ payload ∈ item.responsePayload,
      ∃ fields, read payload = .ok fields := by
    intro payload member
    apply reads
    have own := item.operation_of_payload payload member
    rw [known] at own
    exact (Option.some.inj own).symm
  obtain ⟨fields, answered⟩ := item.readPayload_ok_iff.mpr readable
  exact ⟨fields.getD absent, except_bind_ok_iff.mpr ⟨fields, answered, rfl⟩⟩

theorem processKeyPairBatchItem_ok
    (known : item.operation = some .createKeyPair ∨
      item.operation = some .rekeyKeyPair) :
    ∃ fields, processKeyPairBatchItem item = .ok (item.result fields) := by
  rcases known with known | known
  · apply processOptional_ok (fun payload own => ?_) known
    cases payload <;> cases own
    exact ⟨_, rfl⟩
  · apply processOptional_ok (fun payload own => ?_) known
    cases payload <;> cases own
    exact ⟨_, rfl⟩

theorem processGetAttributesBatchItem_ok
    (known : item.operation = some .getAttributes) :
    ∃ fields, processGetAttributesBatchItem item = .ok (item.result fields) := by
  apply processOptional_ok (fun payload own => ?_) known
  cases payload <;> cases own
  exact ⟨_, rfl⟩

theorem processGetAttributeListBatchItem_ok
    (known : item.operation = some .getAttributeList) :
    ∃ fields,
      processGetAttributeListBatchItem item = .ok (item.result fields) := by
  apply processOptional_ok (fun payload own => ?_) known
  cases payload <;> cases own
  exact ⟨_, rfl⟩

theorem processDiscoverVersionsBatchItem_ok_iff
    (known : item.operation = some .discoverVersions) :
    (∃ fields,
      processDiscoverVersionsBatchItem item = .ok (item.result fields)) ↔
      item.responsePayload ≠ none := by
  cases present : item.responsePayload with
  | none =>
      simp [processDiscoverVersionsBatchItem, present, getattr, bind,
        Except.bind]
  | some payload =>
      have own := item.operation_of_payload payload present
      rw [own] at known
      cases payload <;> simp [ReceivedPayload.operation] at known
      simp only [ne_eq, reduceCtorEq, not_false_eq_true, iff_true]
      refine ⟨_, except_bind_ok_iff.mpr ⟨_, by rw [present]; rfl, rfl⟩⟩

theorem processBatchItem_ok_iff :
    (∃ fields, processBatchItem item = .ok (item.result fields)) ↔
      (∀ operation ∈ item.operation, operation ∈ ClientMethod.processable) ∧
        (item.operation = some .discoverVersions →
          item.responsePayload ≠ none) := by
  unfold processBatchItem
  split
  case h_1 absent => simp [absent]
  case h_2 known =>
      simp [known, ClientMethod.processable,
        processKeyPairBatchItem_ok (.inl known)]
  case h_3 known =>
      simp [known, ClientMethod.processable,
        processKeyPairBatchItem_ok (.inr known)]
  case h_4 known =>
      simp [known, ClientMethod.processable,
        processGetAttributesBatchItem_ok known]
  case h_5 known =>
      simp [known, ClientMethod.processable,
        processGetAttributeListBatchItem_ok known]
  case h_6 known => simp [known, ClientMethod.processable]
  case h_7 known =>
      rw [processDiscoverVersionsBatchItem_ok_iff known]
      simp [known, ClientMethod.processable]
  case h_8 operation notKeyPair notRekey notAttributes notList notQuery
      notVersions known =>
      simp_all [ClientMethod.processable]

theorem result_of_processOptional
    {absent : ProcessedFields}
    {read : ReceivedPayload → Except PyError ProcessedFields}
    {result : OperationResult ProcessedFields}
    (processed : processOptional absent read item = .ok result) :
    ∃ fields, result = item.result fields := by
  obtain ⟨fields, answered, ⟨⟩⟩ := except_bind_ok_iff.mp processed
  exact ⟨_, rfl⟩

theorem result_of_processBatchItem
    {result : OperationResult ProcessedFields}
    (processed : processBatchItem item = .ok result) :
    ∃ fields, result = item.result fields := by
  unfold processBatchItem at processed
  split at processed
  case h_1 =>
      cases processed
      exact ⟨_, rfl⟩
  case h_2 => exact result_of_processOptional processed
  case h_3 => exact result_of_processOptional processed
  case h_4 => exact result_of_processOptional processed
  case h_5 => exact result_of_processOptional processed
  case h_6 =>
      cases processed
      exact ⟨_, rfl⟩
  case h_7 =>
      obtain ⟨payload, present, processed⟩ := except_bind_ok_iff.mp processed
      obtain ⟨versions, read, ⟨⟩⟩ := except_bind_ok_iff.mp processed
      exact ⟨_, rfl⟩
  case h_8 => cases processed

theorem processBatchItems_singleton :
    processBatchItems [item] = processBatchItem item := by
  unfold processBatchItems
  cases outcome : processBatchItem item with
  | ok result => simp [outcome, bind, Except.bind, firstOf, pure, Except.pure]
  | error error => simp [outcome, bind, Except.bind]

end KMIPProxy

theorem KMIPProxy.result_of_check
    {result : OperationResult CheckedFields}
    (answered : KMIPProxy.check [item] = .ok result) :
    ∃ fields, result = item.result fields := by
  obtain ⟨_, ⟨⟩, answered⟩ := except_bind_ok_iff.mp answered
  obtain ⟨uniqueIdentifier, read, answered⟩ := except_bind_ok_iff.mp answered
  obtain ⟨payload, present, answered⟩ := except_bind_ok_iff.mp answered
  obtain ⟨count, readCount, answered⟩ := except_bind_ok_iff.mp answered
  obtain ⟨mask, readMask, answered⟩ := except_bind_ok_iff.mp answered
  obtain ⟨leaseTime, readLease, ⟨⟩⟩ := except_bind_ok_iff.mp answered
  exact ⟨_, rfl⟩

end Processing

section FailingMethods

variable {item : ReceivedItem} (method : ClientMethod)
  (failed : item.resultStatus ≠ .success)

include failed

open ProxyKmipClient

theorem reportedBy_result_iff
    {read : ReceivedPayload → Except PyError β}
    {values : Option β → Except PyError ClientValue}
    (readable : ∀ payload, (∃ fields, read payload = .ok fields) ↔
      payload.operation ∈ method.readableFrom)
    (unpacking : method.unpacking = .result) :
    item.ReportedBy
        (ProxyKmipClient.unpack (KMIPProxy.answer read) (reportResult values) [item]) ↔
      method.PayloadReadable item ∧ method.CauseReadable item := by
  rw [reportedBy_unpack_iff (reportedBy_reportResult_iff failed values)]
  have notCheck : method ≠ .check := by
    intro same
    rw [same] at unpacking
    cases unpacking
  simp [ClientMethod.PayloadReadable, ClientMethod.CauseReadable, unpacking,
    readable, notCheck]

theorem reportedBy_dictionary_iff
    {read : ReceivedPayload → Except PyError β}
    {values : Option β → ClientValue}
    (readable : ∀ payload, (∃ fields, read payload = .ok fields) ↔
      payload.operation ∈ method.readableFrom)
    (unpacking : method.unpacking = .dictionary) (notCheck : method ≠ .check) :
    item.ReportedBy
        (ProxyKmipClient.unpack (KMIPProxy.answer read) (reportDictionary values) [item]) ↔
      method.PayloadReadable item ∧ method.CauseReadable item := by
  rw [reportedBy_unpack_iff (reportedBy_reportDictionary_iff failed values)]
  simp [ClientMethod.PayloadReadable, ClientMethod.CauseReadable, unpacking,
    readable, notCheck]

theorem reportedBy_processed_iff
    {values : ProcessedFields → Except PyError ClientValue}
    (unpacking : method.unpacking = .processed) :
    item.ReportedBy
        (ProxyKmipClient.unpack KMIPProxy.processBatchItems (reportResult values) [item]) ↔
      method.PayloadReadable item ∧ method.CauseReadable item := by
  have processable : method.PayloadReadable item ↔
      ∃ fields, KMIPProxy.processBatchItem item = .ok (item.result fields) := by
    rw [KMIPProxy.processBatchItem_ok_iff]
    simp [ClientMethod.PayloadReadable, unpacking]
  have cause : method.CauseReadable item ↔
      item.resultReason ≠ none ∧ item.resultMessage ≠ none := by
    simp [ClientMethod.CauseReadable, unpacking]
  unfold ProxyKmipClient.unpack
  rw [item.reportedBy_bind_iff, KMIPProxy.processBatchItems_singleton,
    processable, cause]
  constructor
  · rintro ⟨result, processed, failure⟩
    obtain ⟨fields, rfl⟩ := KMIPProxy.result_of_processBatchItem processed
    exact ⟨⟨fields, processed⟩,
      (reportedBy_reportResult_iff failed values fields).mp failure⟩
  · rintro ⟨⟨fields, processed⟩, given⟩
    exact ⟨item.result fields, processed,
      (reportedBy_reportResult_iff failed values fields).mpr given⟩

theorem reportedBy_request_iff
    {operation : Operation} {operationName : String}
    {values : ReceivedPayload → Except PyError ClientValue}
    (unpacking : method.unpacking = .requestPayload) :
    item.ReportedBy (request operation operationName values [item]) ↔
      method.PayloadReadable item ∧ method.CauseReadable item := by
  have raised : request operation operationName values [item] =
      .error (KMIPProxy.operationFailure item) := by
    simp [request, KMIPProxy.sendRequestPayload, failed, bind, Except.bind]
  rw [raised, item.reportedBy_operationFailure_iff]
  simp [ClientMethod.PayloadReadable, ClientMethod.CauseReadable, unpacking]

/-- `check` reads the payload of a failure too. -/
theorem reportedBy_check_iff :
    item.ReportedBy (ProxyKmipClient.check [item]) ↔
      ClientMethod.check.PayloadReadable item ∧
        ClientMethod.check.CauseReadable item := by
  have cause : ClientMethod.check.CauseReadable item ↔
      item.resultReason ≠ none := by
    simp [ClientMethod.CauseReadable, ClientMethod.unpacking]
  have readable : ClientMethod.check.PayloadReadable item ↔
      ∃ fields, KMIPProxy.check [item] = .ok (item.result fields) := by
    cases present : item.responsePayload with
    | none =>
        simp [ClientMethod.PayloadReadable, ClientMethod.unpacking, present,
          KMIPProxy.check, firstOf, getattr,
          ReceivedItem.readPayload, bind, Except.bind]
    | some payload =>
        cases payload <;>
          simp [ClientMethod.PayloadReadable, ClientMethod.unpacking, present,
            ClientMethod.readableFrom, ClientMethod.operation,
            ReceivedPayload.operation, KMIPProxy.check, firstOf, getattr,
            ReceivedItem.readPayload, ReceivedPayload.uniqueIdentifier?,
            ReceivedPayload.usageLimitsCount?,
            ReceivedPayload.cryptographicUsageMask?,
            ReceivedPayload.leaseTime?, bind, Except.bind, Functor.map,
            Except.map, pure, Except.pure]
  unfold ProxyKmipClient.check ProxyKmipClient.unpack
  rw [item.reportedBy_bind_iff, readable, cause]
  constructor
  · rintro ⟨result, answered, failure⟩
    obtain ⟨fields, rfl⟩ := KMIPProxy.result_of_check answered
    exact ⟨⟨fields, answered⟩,
      (reportedBy_reportDictionary_iff failed _ fields).mp failure⟩
  · rintro ⟨⟨fields, answered⟩, given⟩
    exact ⟨item.result fields, answered,
      (reportedBy_reportDictionary_iff failed _ fields).mpr given⟩

/-- A failure is reported when what the method reads is there. -/
theorem reportedBy_report_iff :
    item.ReportedBy (method.report [item]) ↔
      method.PayloadReadable item ∧ method.CauseReadable item := by
  have identified : ∀ payload,
      (∃ value, getattr (ReceivedPayload.uniqueIdentifier? payload) = .ok value) ↔
        payload.operation ∈ ClientMethod.activate.readableFrom := fun _ =>
    getattr_ok_iff.trans ReceivedPayload.uniqueIdentifier?_isSome_iff
  cases method with
  | create =>
      exact reportedBy_result_iff .create failed
        (fun _ => KMIPProxy.readCreated_ok_iff) rfl
  | register =>
      exact reportedBy_result_iff .register failed
        (fun _ => KMIPProxy.readIdentified_ok_iff) rfl
  | get =>
      exact reportedBy_result_iff .get failed
        (fun _ => KMIPProxy.readRetrieved_ok_iff) rfl
  | activate => exact reportedBy_result_iff .activate failed identified rfl
  | revoke => exact reportedBy_result_iff .revoke failed identified rfl
  | destroy => exact reportedBy_result_iff .destroy failed identified rfl
  | locate =>
      exact reportedBy_result_iff .locate failed
        (fun _ => getattr_ok_iff.trans
          ReceivedPayload.uniqueIdentifiers?_isSome_iff) rfl
  | mac =>
      exact reportedBy_result_iff .mac failed
        (fun _ => KMIPProxy.readMac_ok_iff) rfl
  | rekey =>
      exact reportedBy_dictionary_iff .rekey failed
        (fun _ => KMIPProxy.readIdentified_ok_iff) rfl nofun
  | deriveKey =>
      exact reportedBy_dictionary_iff .deriveKey failed
        (fun _ => KMIPProxy.readIdentified_ok_iff) rfl nofun
  | encrypt =>
      exact reportedBy_dictionary_iff .encrypt failed
        (fun _ => KMIPProxy.readEncrypted_ok_iff) rfl nofun
  | decrypt =>
      exact reportedBy_dictionary_iff .decrypt failed
        (fun _ => KMIPProxy.readData_ok_iff) rfl nofun
  | signatureVerify =>
      exact reportedBy_dictionary_iff .signatureVerify failed
        (fun _ => KMIPProxy.readValidity_ok_iff) rfl nofun
  | sign =>
      exact reportedBy_dictionary_iff .sign failed
        (fun _ => KMIPProxy.readSignature_ok_iff) rfl nofun
  | check => exact reportedBy_check_iff failed
  | createKeyPair => exact reportedBy_processed_iff .createKeyPair failed rfl
  | getAttributes => exact reportedBy_processed_iff .getAttributes failed rfl
  | getAttributeList =>
      exact reportedBy_processed_iff .getAttributeList failed rfl
  | deleteAttribute => exact reportedBy_request_iff .deleteAttribute failed rfl
  | setAttribute => exact reportedBy_request_iff .setAttribute failed rfl
  | modifyAttribute => exact reportedBy_request_iff .modifyAttribute failed rfl

end FailingMethods

section SucceedingMethods

variable {item : ReceivedItem} {payload : ReceivedPayload}

theorem ReceivedItem.readPayload_of_payload
    (present : payload ∈ item.responsePayload)
    {read : ReceivedPayload → Except PyError β} {fields : β}
    (readable : read payload = .ok fields) :
    item.readPayload read = .ok (some fields) := by
  unfold ReceivedItem.readPayload
  rw [present]
  simp [readable, Functor.map, Except.map]

theorem check_of_payload
    {uniqueIdentifier : Option String} {usageLimitsCount usageMask : Option Int}
    {leaseTime : Option Nat}
    (present : item.responsePayload =
      some (.check uniqueIdentifier usageLimitsCount usageMask leaseTime)) :
    KMIPProxy.check [item] = .ok (item.result
      { uniqueIdentifier, usageLimitsCount, leaseTime
        cryptographicUsageMask := usageMask.map KMIPProxy.usageMasks }) := by
  simp [KMIPProxy.check, firstOf, ReceivedItem.readPayload, present, getattr,
    ReceivedPayload.uniqueIdentifier?, ReceivedPayload.usageLimitsCount?,
    ReceivedPayload.cryptographicUsageMask?, ReceivedPayload.leaseTime?, bind,
    Except.bind, Functor.map, Except.map, pure, Except.pure]

variable (succeeded : item.resultStatus = .success)
  (present : payload ∈ item.responsePayload)

open ProxyKmipClient

include succeeded

theorem unpack_of_success
    {proxy : List ReceivedItem → Except PyError (OperationResult β)}
    {values : β → Except PyError ClientValue} {fields : β} {value : ClientValue}
    (answered : proxy [item] = .ok (item.result fields))
    (given : values fields = .ok value) :
    ProxyKmipClient.unpack proxy (reportResult values) [item] = .ok value := by
  unfold ProxyKmipClient.unpack reportResult
  rw [answered]
  simp [ReceivedItem.result, succeeded, given, Except.mapError, bind,
    Except.bind]

theorem unpackDictionary_of_success
    {proxy : List ReceivedItem → Except PyError (OperationResult β)}
    {values : β → ClientValue} {fields : β} {value : ClientValue}
    (answered : proxy [item] = .ok (item.result fields))
    (given : values fields = value) :
    ProxyKmipClient.unpack proxy (reportDictionary values) [item] =
      .ok value := by
  unfold ProxyKmipClient.unpack reportDictionary
  rw [answered]
  simp [ReceivedItem.result, succeeded, given, Except.mapError, bind,
    Except.bind]

include present

omit succeeded in
theorem answer_of_payload
    {read : ReceivedPayload → Except PyError β} {fields : β}
    (readable : read payload = .ok fields) :
    KMIPProxy.answer read [item] = .ok (item.result (some fields)) := by
  have answered := item.readPayload_of_payload present readable
  exact except_bind_ok_iff.mpr
    ⟨item, rfl, except_bind_ok_iff.mpr ⟨some fields, answered, rfl⟩⟩

theorem request_of_success
    {operationName : String}
    {values : ReceivedPayload → Except PyError ClientValue} {value : ClientValue}
    (given : values payload = .ok value) :
    request payload.operation operationName values [item] = .ok value := by
  have matching :
      KMIPProxy.matchingPayload payload.operation operationName item =
        .ok payload := by
    unfold KMIPProxy.matchingPayload
    rw [item.operation_of_payload payload present, present]
    simp [Option.filter, getattr, bind, Except.bind, pure, Except.pure]
  simp [request, KMIPProxy.sendRequestPayload, succeeded, matching, given,
    Except.mapError, bind, Except.bind]

omit succeeded in
theorem processBatchItems_of_payload
    {absent : ProcessedFields}
    {read : ReceivedPayload → Except PyError ProcessedFields}
    {fields : ProcessedFields}
    (chosen : KMIPProxy.processBatchItem item =
      KMIPProxy.processOptional absent read item)
    (readable : read payload = .ok fields) :
    KMIPProxy.processBatchItems [item] = .ok (item.result fields) := by
  rw [KMIPProxy.processBatchItems_singleton, chosen]
  have answered := item.readPayload_of_payload present readable
  exact except_bind_ok_iff.mpr ⟨some fields, answered, rfl⟩

/-- The values of a payload of the method's own operation are returned, if they
can be had. -/
theorem report_of_payload
    {method : ClientMethod} (own : payload.operation = method.operation)
    (convertible : payload.Convertible) :
    ∃ value, PayloadValues method payload value ∧
      method.report [item] = .ok value := by
  have known := item.operation_of_payload payload present
  cases method <;> cases payload <;> cases own
  case create =>
      exact ⟨_, .create,
        unpack_of_success succeeded (answer_of_payload present rfl) rfl⟩
  case createKeyPair =>
      exact ⟨_, .createKeyPair, unpack_of_success succeeded
        (processBatchItems_of_payload present
          (by unfold KMIPProxy.processBatchItem; rw [known]; rfl) rfl) rfl⟩
  case deleteAttribute =>
      exact ⟨_, .deleteAttribute, request_of_success succeeded present rfl⟩
  case setAttribute =>
      exact ⟨_, .setAttribute, request_of_success succeeded present rfl⟩
  case modifyAttribute =>
      exact ⟨_, .modifyAttribute, request_of_success succeeded present rfl⟩
  case register =>
      exact ⟨_, .register,
        unpack_of_success succeeded (answer_of_payload present rfl) rfl⟩
  case rekey =>
      exact ⟨_, .rekey, unpackDictionary_of_success succeeded
        (answer_of_payload present rfl) rfl⟩
  case deriveKey =>
      exact ⟨_, .deriveKey, unpackDictionary_of_success succeeded
        (answer_of_payload present rfl) rfl⟩
  case locate =>
      exact ⟨_, .locate,
        unpack_of_success succeeded (answer_of_payload present rfl) rfl⟩
  case check =>
      exact ⟨_, .check, unpackDictionary_of_success succeeded
        (check_of_payload present) rfl⟩
  case get objectType uid secret =>
      obtain ⟨managedObject, converted⟩ := convertible secret rfl
      refine ⟨_, .get converted, unpack_of_success succeeded
        (answer_of_payload present rfl) ?_⟩
      simp [converted, Functor.map, Except.map]
  case getAttributes =>
      exact ⟨_, .getAttributes, unpack_of_success succeeded
        (processBatchItems_of_payload present
          (by unfold KMIPProxy.processBatchItem; rw [known]; rfl) rfl) rfl⟩
  case getAttributeList =>
      exact ⟨_, .getAttributeList, unpack_of_success succeeded
        (processBatchItems_of_payload present
          (by unfold KMIPProxy.processBatchItem; rw [known]; rfl) rfl) rfl⟩
  case activate =>
      exact ⟨_, .activate,
        unpack_of_success succeeded (answer_of_payload present rfl) rfl⟩
  case revoke =>
      exact ⟨_, .revoke,
        unpack_of_success succeeded (answer_of_payload present rfl) rfl⟩
  case destroy =>
      exact ⟨_, .destroy,
        unpack_of_success succeeded (answer_of_payload present rfl) rfl⟩
  case encrypt =>
      exact ⟨_, .encrypt, unpackDictionary_of_success succeeded
        (answer_of_payload present rfl) rfl⟩
  case decrypt =>
      exact ⟨_, .decrypt, unpackDictionary_of_success succeeded
        (answer_of_payload present rfl) rfl⟩
  case signatureVerify =>
      exact ⟨_, .signatureVerify, unpackDictionary_of_success succeeded
        (answer_of_payload present rfl) rfl⟩
  case sign =>
      exact ⟨_, .sign, unpackDictionary_of_success succeeded
        (answer_of_payload present rfl) rfl⟩
  case mac =>
      exact ⟨_, .mac,
        unpack_of_success succeeded (answer_of_payload present rfl) rfl⟩

end SucceedingMethods

section Calls

variable (send : Operation → Option Nat → α → Except PyError Unit)
  (method : ClientMethod) (arguments : ClientArguments α) (item : ReceivedItem)

theorem forM_read_singleton_iff :
    [item].forM ReceivedItem.read = .ok () ↔ item.read = .ok () := by
  cases outcome : item.read <;>
    simp [List.forM, outcome, bind, Except.bind, pure, Except.pure]

theorem read_of_payload {payload : ReceivedPayload}
    (present : payload ∈ item.responsePayload) : item.read = .ok () := by
  unfold ReceivedItem.read
  rw [item.operation_of_payload payload present]
  exact createResponsePayload_operation payload

theorem reportedBy_call_iff (failed : item.resultStatus ≠ .success) :
    item.ReportedBy (method.call send arguments [item]) ↔
      method.sendRequest send arguments = .ok () ∧ item.read = .ok () ∧
        method.PayloadReadable item ∧ method.CauseReadable item := by
  unfold ClientMethod.call
  rw [item.reportedBy_bind_iff]
  simp only [item.reportedBy_bind_iff, reportedBy_report_iff method failed]
  constructor
  · rintro ⟨⟨⟩, sent, ⟨⟩, received, reported⟩
    exact ⟨sent, (forM_read_singleton_iff item).mp received, reported⟩
  · rintro ⟨sent, received, reported⟩
    exact ⟨(), sent, (), (forM_read_singleton_iff item).mpr received, reported⟩

theorem call_of_payload_iff
    {payload : ReceivedPayload} (succeeded : item.resultStatus = .success)
    (present : payload ∈ item.responsePayload)
    (own : payload.operation = method.operation) :
    (∃ value, PayloadValues method payload value ∧
        method.call send arguments [item] = .ok value) ↔
      method.sendRequest send arguments = .ok () ∧ payload.Convertible := by
  constructor
  · rintro ⟨value, values, returned⟩
    obtain ⟨⟨⟩, sent, returned⟩ := except_bind_ok_iff.mp returned
    constructor
    · cases outcome : method.sendRequest send arguments with
      | ok _ => rfl
      | error error => simp [outcome, Except.mapError] at sent
    · intro secret included
      cases values with
      | get converted =>
          cases included
          exact ⟨_, converted⟩
      | _ => cases included
  · rintro ⟨sent, convertible⟩
    obtain ⟨value, values, returned⟩ :=
      report_of_payload succeeded present own convertible
    refine ⟨value, values, ?_⟩
    have received :=
      (forM_read_singleton_iff item).mpr (read_of_payload item present)
    unfold ClientMethod.call
    rw [sent, received]
    exact returned

/-- A method reports the verdict of a failure exactly when its request can be
sent, the response names an operation that has a payload class, the payload is
one that it can read, and the item has a reason, and a message where the method
reads one.  It returns the values of the payload of its operation exactly when
the request can be sent and a secret can be converted. -/
theorem client_reports_verdict_iff :
    ReportsVerdict method item (method.call send arguments [item]) ↔
      (item.resultStatus ≠ .success →
        method.sendRequest send arguments = .ok () ∧ item.read = .ok () ∧
          method.PayloadReadable item ∧ method.CauseReadable item) ∧
      (item.resultStatus = .success →
        ∀ payload ∈ item.responsePayload,
          payload.operation = method.operation →
            method.sendRequest send arguments = .ok () ∧
              payload.Convertible) := by
  constructor
  · intro reports
    constructor
    · intro failed
      apply (reportedBy_call_iff send method arguments item failed).mp
      exact reports.failure failed
    · intro succeeded payload present own
      apply (call_of_payload_iff send method arguments item succeeded present
        own).mp
      exact reports.success succeeded payload present own
  · rintro ⟨failures, successes⟩
    constructor
    · intro failed
      apply (reportedBy_call_iff send method arguments item failed).mpr
      exact failures failed
    · intro succeeded payload present own
      apply (call_of_payload_iff send method arguments item succeeded present
        own).mpr
      exact successes succeeded payload present own

end Calls

section Counterexample

/-- A failed activation without a message. -/
def activationFailure : ReceivedItem where
  operation := some .activate
  resultStatus := .operationFailed
  resultReason := some .permissionDenied
  resultMessage := none
  responsePayload := none
  operation_of_payload := by simp

/-- The failure is not reported: reading the value of the message raises. -/
theorem activation_failure_is_not_reported :
    ClientMethod.activate.call (fun _ _ (_ : Option String) => .ok ())
        { cryptographicUsageMask := none, rest := none } [activationFailure] =
      .error (.raised (.python .attributeError)) ∧
    ¬ ReportsVerdict .activate activationFailure
        (ClientMethod.activate.call (fun _ _ (_ : Option String) => .ok ())
          { cryptographicUsageMask := none, rest := none }
          [activationFailure]) := by
  constructor
  · rfl
  · intro reports
    exact activationFailure.not_reportedBy_raised _ (reports.failure (by decide))

end Counterexample

end PyKMIP
