import PyKMIP.Exceptions

/-!
# Attribute policy

One rule set per attribute name says which objects carry the attribute, what
a client may do to it, and in which protocol versions it exists.
-/

namespace PyKMIP

structure ProtocolVersion where
  major : Int
  minor : Int
deriving DecidableEq, Repr

namespace ProtocolVersion

def text (version : ProtocolVersion) : String :=
  s!"{version.major}.{version.minor}"

instance : LE ProtocolVersion where
  le lower upper :=
    lower.major < upper.major ∨
      lower.major = upper.major ∧ lower.minor ≤ upper.minor

instance (lower upper : ProtocolVersion) : Decidable (lower ≤ upper) :=
  inferInstanceAs (Decidable (_ ∨ _))

end ProtocolVersion

/-- The texts of the attribute names that have a rule set, in table order. -/
def listedNames : List String :=
  ["Unique Identifier", "Name", "Object Type", "Cryptographic Algorithm",
  "Cryptographic Length", "Cryptographic Parameters",
  "Cryptographic Domain Parameters", "Certificate Type",
  "Certificate Length", "X.509 Certificate Identifier",
  "X.509 Certificate Subject", "X.509 Certificate Issuer",
  "Certificate Identifier", "Certificate Subject", "Certificate Issuer",
  "Digital Signature Algorithm", "Digest", "Operation Policy Name",
  "Cryptographic Usage Mask", "Lease Time", "Usage Limits", "State",
  "Initial Date", "Activation Date", "Process Start Date",
  "Protect Stop Date", "Deactivation Date", "Destroy Date",
  "Compromise Occurrence Date", "Compromise Date", "Revocation Reason",
  "Archive Date", "Object Group", "Fresh", "Link",
  "Application Specific Information", "Contact Information",
  "Last Change Date", "Custom Attribute", "Sensitive"]

/-- An attribute name of the rule table, or any other text. -/
inductive AttributeName where
  | uniqueIdentifier | name | objectType | cryptographicAlgorithm
  | cryptographicLength | cryptographicParameters
  | cryptographicDomainParameters | certificateType | certificateLength
  | x509CertificateIdentifier | x509CertificateSubject
  | x509CertificateIssuer | certificateIdentifier | certificateSubject
  | certificateIssuer | digitalSignatureAlgorithm | digest
  | operationPolicyName | cryptographicUsageMask | leaseTime | usageLimits
  | state | initialDate | activationDate | processStartDate | protectStopDate
  | deactivationDate | destroyDate | compromiseOccurrenceDate
  | compromiseDate | revocationReason | archiveDate | objectGroup | fresh
  | link | applicationSpecificInformation | contactInformation
  | lastChangeDate | customAttribute | sensitive
  | other (text : String) (unlisted : text ∉ listedNames)
deriving DecidableEq

def AttributeName.text : AttributeName → String
  | .uniqueIdentifier => "Unique Identifier"
  | .name => "Name"
  | .objectType => "Object Type"
  | .cryptographicAlgorithm => "Cryptographic Algorithm"
  | .cryptographicLength => "Cryptographic Length"
  | .cryptographicParameters => "Cryptographic Parameters"
  | .cryptographicDomainParameters => "Cryptographic Domain Parameters"
  | .certificateType => "Certificate Type"
  | .certificateLength => "Certificate Length"
  | .x509CertificateIdentifier => "X.509 Certificate Identifier"
  | .x509CertificateSubject => "X.509 Certificate Subject"
  | .x509CertificateIssuer => "X.509 Certificate Issuer"
  | .certificateIdentifier => "Certificate Identifier"
  | .certificateSubject => "Certificate Subject"
  | .certificateIssuer => "Certificate Issuer"
  | .digitalSignatureAlgorithm => "Digital Signature Algorithm"
  | .digest => "Digest"
  | .operationPolicyName => "Operation Policy Name"
  | .cryptographicUsageMask => "Cryptographic Usage Mask"
  | .leaseTime => "Lease Time"
  | .usageLimits => "Usage Limits"
  | .state => "State"
  | .initialDate => "Initial Date"
  | .activationDate => "Activation Date"
  | .processStartDate => "Process Start Date"
  | .protectStopDate => "Protect Stop Date"
  | .deactivationDate => "Deactivation Date"
  | .destroyDate => "Destroy Date"
  | .compromiseOccurrenceDate => "Compromise Occurrence Date"
  | .compromiseDate => "Compromise Date"
  | .revocationReason => "Revocation Reason"
  | .archiveDate => "Archive Date"
  | .objectGroup => "Object Group"
  | .fresh => "Fresh"
  | .link => "Link"
  | .applicationSpecificInformation => "Application Specific Information"
  | .contactInformation => "Contact Information"
  | .lastChangeDate => "Last Change Date"
  | .customAttribute => "Custom Attribute"
  | .sensitive => "Sensitive"
  | .other text _ => text

/-- The part of a rule set that the engine asks for. -/
structure AttributeRuleSet where
  modifiableByClient : Bool
  deletableByClient : Bool
  multipleInstancesPermitted : Bool
  appliesToObjectTypes : List ObjectType
  versionAdded : ProtocolVersion
  versionDeprecated : Option ProtocolVersion
deriving DecidableEq, Repr

namespace AttributePolicy

def everyObject : List ObjectType :=
  [.certificate, .symmetricKey, .publicKey, .privateKey, .splitKey,
  .template, .secretData, .opaqueData]

def keysCertificatesTemplates : List ObjectType :=
  [.certificate, .symmetricKey, .publicKey, .privateKey, .splitKey,
  .template]

def everyObjectButTemplates : List ObjectType :=
  [.certificate, .symmetricKey, .publicKey, .privateKey, .splitKey,
  .secretData, .opaqueData]

def everyObjectButOpaque : List ObjectType :=
  [.certificate, .symmetricKey, .publicKey, .privateKey, .splitKey,
  .template, .secretData]

def cryptographicObjects : List ObjectType :=
  [.certificate, .symmetricKey, .publicKey, .privateKey, .splitKey,
  .secretData]

def attributeRuleSet : AttributeName → Option AttributeRuleSet
  | .uniqueIdentifier =>
      some ⟨false, false, false, everyObject, ⟨1, 0⟩, none⟩
  | .name =>
      some ⟨true, true, true, everyObject, ⟨1, 0⟩, none⟩
  | .objectType =>
      some ⟨false, false, false, everyObject, ⟨1, 0⟩, none⟩
  | .cryptographicAlgorithm =>
      some ⟨false, false, false, keysCertificatesTemplates, ⟨1, 0⟩, none⟩
  | .cryptographicLength =>
      some ⟨false, false, false, keysCertificatesTemplates, ⟨1, 0⟩, none⟩
  | .cryptographicParameters =>
      some ⟨true, true, true, keysCertificatesTemplates, ⟨1, 0⟩, none⟩
  | .cryptographicDomainParameters =>
      some ⟨false, false, false,
        [.publicKey, .privateKey, .template],
        ⟨1, 0⟩, none⟩
  | .certificateType =>
      some ⟨false, false, false, [.certificate], ⟨1, 0⟩, none⟩
  | .certificateLength =>
      some ⟨false, false, false, [.certificate], ⟨1, 1⟩, none⟩
  | .x509CertificateIdentifier =>
      some ⟨false, false, false, [.certificate], ⟨1, 1⟩, none⟩
  | .x509CertificateSubject =>
      some ⟨false, false, false, [.certificate], ⟨1, 1⟩, none⟩
  | .x509CertificateIssuer =>
      some ⟨false, false, false, [.certificate], ⟨1, 1⟩, none⟩
  | .certificateIdentifier =>
      some ⟨false, false, false, [.certificate], ⟨1, 0⟩, some ⟨1, 1⟩⟩
  | .certificateSubject =>
      some ⟨false, false, false, [.certificate], ⟨1, 0⟩, some ⟨1, 1⟩⟩
  | .certificateIssuer =>
      some ⟨false, false, false, [.certificate], ⟨1, 0⟩, some ⟨1, 1⟩⟩
  | .digitalSignatureAlgorithm =>
      some ⟨false, false, false, [.certificate], ⟨1, 1⟩, none⟩
  | .digest =>
      some ⟨false, false, true, everyObjectButTemplates, ⟨1, 0⟩, none⟩
  | .operationPolicyName =>
      some ⟨false, false, false, everyObject, ⟨1, 0⟩, some ⟨2, 0⟩⟩
  | .cryptographicUsageMask =>
      some ⟨false, false, false, everyObjectButOpaque, ⟨1, 0⟩, none⟩
  | .leaseTime =>
      some ⟨false, false, false, cryptographicObjects, ⟨1, 0⟩, none⟩
  | .usageLimits =>
      some ⟨true, true, false,
        [.symmetricKey, .publicKey, .privateKey, .splitKey, .template],
        ⟨1, 0⟩, none⟩
  | .state =>
      some ⟨false, false, false, cryptographicObjects, ⟨1, 0⟩, none⟩
  | .initialDate =>
      some ⟨false, false, false, everyObject, ⟨1, 0⟩, none⟩
  | .activationDate =>
      some ⟨true, false, false, everyObjectButOpaque, ⟨1, 0⟩, none⟩
  | .processStartDate =>
      some ⟨true, false, false,
        [.symmetricKey, .splitKey, .template],
        ⟨1, 0⟩, none⟩
  | .protectStopDate =>
      some ⟨true, false, false,
        [.symmetricKey, .splitKey, .template],
        ⟨1, 0⟩, none⟩
  | .deactivationDate =>
      some ⟨true, false, false, everyObjectButOpaque, ⟨1, 0⟩, none⟩
  | .destroyDate =>
      some ⟨false, false, false, everyObjectButTemplates, ⟨1, 0⟩, none⟩
  | .compromiseOccurrenceDate =>
      some ⟨false, false, false, everyObjectButTemplates, ⟨1, 0⟩, none⟩
  | .compromiseDate =>
      some ⟨false, false, false, everyObjectButTemplates, ⟨1, 0⟩, none⟩
  | .revocationReason =>
      some ⟨false, false, false, everyObjectButTemplates, ⟨1, 0⟩, none⟩
  | .archiveDate =>
      some ⟨false, false, false, everyObject, ⟨1, 0⟩, none⟩
  | .objectGroup =>
      some ⟨true, true, true, everyObject, ⟨1, 0⟩, none⟩
  | .fresh =>
      some ⟨false, false, false, everyObject, ⟨1, 1⟩, none⟩
  | .link =>
      some ⟨true, true, true, everyObject, ⟨1, 0⟩, none⟩
  | .applicationSpecificInformation =>
      some ⟨true, true, true, everyObject, ⟨1, 0⟩, none⟩
  | .contactInformation =>
      some ⟨true, true, false, everyObject, ⟨1, 0⟩, none⟩
  | .lastChangeDate =>
      some ⟨false, false, false, everyObject, ⟨1, 0⟩, none⟩
  | .customAttribute =>
      some ⟨true, true, true, everyObject, ⟨1, 0⟩, none⟩
  | .sensitive =>
      some ⟨true, false, false, everyObject, ⟨1, 4⟩, none⟩
  | .other _ _ => none

/-- The keys of the table in the order of the source. -/
def getAllAttributeNames : List AttributeName :=
  [.uniqueIdentifier, .name, .objectType, .cryptographicAlgorithm,
  .cryptographicLength, .cryptographicParameters,
  .cryptographicDomainParameters, .certificateType, .certificateLength,
  .x509CertificateIdentifier, .x509CertificateSubject,
  .x509CertificateIssuer, .certificateIdentifier, .certificateSubject,
  .certificateIssuer, .digitalSignatureAlgorithm, .digest,
  .operationPolicyName, .cryptographicUsageMask, .leaseTime, .usageLimits,
  .state, .initialDate, .activationDate, .processStartDate, .protectStopDate,
  .deactivationDate, .destroyDate, .compromiseOccurrenceDate,
  .compromiseDate, .revocationReason, .archiveDate, .objectGroup, .fresh,
  .link, .applicationSpecificInformation, .contactInformation,
  .lastChangeDate, .customAttribute, .sensitive]

section Queries

variable (version : ProtocolVersion) (attributeName : AttributeName)

def isAttributeSupported : Bool :=
  match attributeRuleSet attributeName with
  | some ruleSet => ruleSet.versionAdded ≤ version
  | none => false

/-- Asking about a name that has no rule set reads a field of `None`. -/
def ruleSetOf : Except PyError AttributeRuleSet :=
  match attributeRuleSet attributeName with
  | some ruleSet => .ok ruleSet
  | none => .error (.python .attributeError)

def isAttributeDeprecated : Except PyError Bool := do
  let ruleSet ← ruleSetOf attributeName
  match ruleSet.versionDeprecated with
  | some deprecated => return deprecated ≤ version
  | none => return false

def isAttributeDeletableByClient : Except PyError Bool :=
  AttributeRuleSet.deletableByClient <$> ruleSetOf attributeName

def isAttributeModifiableByClient : Except PyError Bool :=
  AttributeRuleSet.modifiableByClient <$> ruleSetOf attributeName

def isAttributeApplicableToObjectType (objectType : ObjectType) :
    Except PyError Bool :=
  (fun ruleSet => ruleSet.appliesToObjectTypes.contains objectType) <$>
    ruleSetOf attributeName

def isAttributeMultivalued : Except PyError Bool :=
  AttributeRuleSet.multipleInstancesPermitted <$> ruleSetOf attributeName

end Queries

end AttributePolicy

end PyKMIP
