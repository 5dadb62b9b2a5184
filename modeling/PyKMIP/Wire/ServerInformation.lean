import PyKMIP.Wire.Requests
import PyKMIP.Wire.RequestWriting

/-!
# Information about servers

What a server tells of itself when it is queried: its random number generators,
its profiles, validations and capabilities, and the defaults of its objects.
-/

namespace PyKMIP.Wire

open Formats Traces

section Enumerations

inductive RNGAlgorithm where
  | unspecified | fips1862 | drbg | nrbg | ansiX931 | ansiX962
deriving DecidableEq

inductive DRBGAlgorithm where
  | unspecified | dualEc | hash | hmac | ctr
deriving DecidableEq

inductive RecommendedCurve where
  | p192 | k163 | b163 | p224 | k233 | b233 | p256 | k283 | b283 | p384 | k409
  | b409 | p521 | k571 | b571 | secp112r1 | secp112r2 | secp128r1 | secp128r2
  | secp160k1 | secp160r1 | secp160r2 | secp191k1 | secp224k1 | secp256k1
  | sect113r1 | sect113r2 | sect131r1 | sect131r2 | sect163r1 | sect193r1
  | sect193r2 | sect239k1 | ansix9p192v2 | ansix9p192v3 | ansix9p239v1
  | ansix9p239v2 | ansix9p239v3 | ansix9c2pnb163v1 | ansix9c2pnb163v2
  | ansix9c2pnb163v3 | ansix9c2pnb176v1 | ansix9c2tnb191v1 | ansix9c2tnb191v2
  | ansix9c2tnb191v3 | ansix9c2pnb208w1 | ansix9c2tnb239v1 | ansix9c2tnb239v2
  | ansix9c2tnb239v3 | ansix9c2pnb272w1 | ansix9c2pnb304w1 | ansix9c2tnb359v1
  | ansix9c2pnb368w1 | ansix9c2tnb431r1 | brainpoolp160r1 | brainpoolp160t1
  | brainpoolp192r1 | brainpoolp192t1 | brainpoolp224r1 | brainpoolp224t1
  | brainpoolp256r1 | brainpoolp256t1 | brainpoolp320r1 | brainpoolp320t1
  | brainpoolp384r1 | brainpoolp384t1 | brainpoolp512r1 | brainpoolp512t1
  | curve25519 | curve448
deriving DecidableEq

inductive FIPS186Variation where
  | unspecified | gpXOriginal | gpXChangeNotice | xOriginal | xChangeNotice
  | kOriginal | kChangeNotice
deriving DecidableEq

inductive ProfileName where
  | baselineServerBasicKmipv12 | baselineServerTlsv12Kmipv12
  | baselineClientBasicKmipv12 | baselineClientTlsv12Kmipv12
  | completeServerBasicKmipv12 | completeServerTlsv12Kmipv12
  | tapeLibraryClientKmipv10 | tapeLibraryClientKmipv11
  | tapeLibraryClientKmipv12 | tapeLibraryServerKmipv10
  | tapeLibraryServerKmipv11 | tapeLibraryServerKmipv12
  | symmetricKeyLifecycleClientKmipv10 | symmetricKeyLifecycleClientKmipv11
  | symmetricKeyLifecycleClientKmipv12 | symmetricKeyLifecycleServerKmipv10
  | symmetricKeyLifecycleServerKmipv11 | symmetricKeyLifecycleServerKmipv12
  | asymmetricKeyLifecycleClientKmipv10 | asymmetricKeyLifecycleClientKmipv11
  | asymmetricKeyLifecycleClientKmipv12 | asymmetricKeyLifecycleServerKmipv10
  | asymmetricKeyLifecycleServerKmipv11 | asymmetricKeyLifecycleServerKmipv12
  | basicCryptographicClientKmipv12 | basicCryptographicServerKmipv12
  | advancedCryptographicClientKmipv12 | advancedCryptographicServerKmipv12
  | rngCryptographicClientKmipv12 | rngCryptographicServerKmipv12
  | basicSymmetricKeyFoundryClientKmipv10
  | intermediateSymmetricKeyFoundryClientKmipv10
  | advancedSymmetricKeyFoundryClientKmipv10
  | basicSymmetricKeyFoundryClientKmipv11
  | intermediateSymmetricKeyFoundryClientKmipv11
  | advancedSymmetricKeyFoundryClientKmipv11
  | basicSymmetricKeyFoundryClientKmipv12
  | intermediateSymmetricKeyFoundryClientKmipv12
  | advancedSymmetricKeyFoundryClientKmipv12 | symmetricKeyFoundryServerKmipv10
  | symmetricKeyFoundryServerKmipv11 | symmetricKeyFoundryServerKmipv12
  | opaqueManagedObjectStoreClientKmipv10
  | opaqueManagedObjectStoreClientKmipv11
  | opaqueManagedObjectStoreClientKmipv12
  | opaqueManagedObjectStoreServerKmipv10
  | opaqueManagedObjectStoreServerKmipv11
  | opaqueManagedObjectStoreServerKmipv12 | suiteBMinlos128ClientKmipv10
  | suiteBMinlos128ClientKmipv11 | suiteBMinlos128ClientKmipv12
  | suiteBMinlos128ServerKmipv10 | suiteBMinlos128ServerKmipv11
  | suiteBMinlos128ServerKmipv12 | suiteBMinlos192ClientKmipv10
  | suiteBMinlos192ClientKmipv11 | suiteBMinlos192ClientKmipv12
  | suiteBMinlos192ServerKmipv10 | suiteBMinlos192ServerKmipv11
  | suiteBMinlos192ServerKmipv12
  | storageArrayWithSelfEncryptingDriveClientKmipv10
  | storageArrayWithSelfEncryptingDriveClientKmipv11
  | storageArrayWithSelfEncryptingDriveClientKmipv12
  | storageArrayWithSelfEncryptingDriveServerKmipv10
  | storageArrayWithSelfEncryptingDriveServerKmipv11
  | storageArrayWithSelfEncryptingDriveServerKmipv12 | httpsClientKmipv10
  | httpsClientKmipv11 | httpsClientKmipv12 | httpsServerKmipv10
  | httpsServerKmipv11 | httpsServerKmipv12 | jsonClientKmipv10
  | jsonClientKmipv11 | jsonClientKmipv12 | jsonServerKmipv10
  | jsonServerKmipv11 | jsonServerKmipv12 | xmlClientKmipv10 | xmlClientKmipv11
  | xmlClientKmipv12 | xmlServerKmipv10 | xmlServerKmipv11 | xmlServerKmipv12
  | baselineServerBasicKmipv13 | baselineServerTlsv12Kmipv13
  | baselineClientBasicKmipv13 | baselineClientTlsv12Kmipv13
  | completeServerBasicKmipv13 | completeServerTlsv12Kmipv13
  | tapeLibraryClientKmipv13 | tapeLibraryServerKmipv13
  | symmetricKeyLifecycleClientKmipv13 | symmetricKeyLifecycleServerKmipv13
  | asymmetricKeyLifecycleClientKmipv13 | asymmetricKeyLifecycleServerKmipv13
  | basicCryptographicClientKmipv13 | basicCryptographicServerKmipv13
  | advancedCryptographicClientKmipv13 | advancedCryptographicServerKmipv13
  | rngCryptographicClientKmipv13 | rngCryptographicServerKmipv13
  | basicSymmetricKeyFoundryClientKmipv13
  | intermediateSymmetricKeyFoundryClientKmipv13
  | advancedSymmetricKeyFoundryClientKmipv13 | symmetricKeyFoundryServerKmipv13
  | opaqueManagedObjectStoreClientKmipv13
  | opaqueManagedObjectStoreServerKmipv13 | suiteBMinlos128ClientKmipv13
  | suiteBMinlos128ServerKmipv13 | suiteBMinlos192ClientKmipv13
  | suiteBMinlos192ServerKmipv13
  | storageArrayWithSelfEncryptingDriveClientKmipv13
  | storageArrayWithSelfEncryptingDriveServerKmipv13 | httpsClientKmipv13
  | httpsServerKmipv13 | jsonClientKmipv13 | jsonServerKmipv13
  | xmlClientKmipv13 | xmlServerKmipv13 | baselineServerBasicKmipv14
  | baselineServerTlsv12Kmipv14 | baselineClientBasicKmipv14
  | baselineClientTlsv12Kmipv14 | completeServerBasicKmipv14
  | completeServerTlsv12Kmipv14 | tapeLibraryClientKmipv14
  | tapeLibraryServerKmipv14 | symmetricKeyLifecycleClientKmipv14
  | symmetricKeyLifecycleServerKmipv14 | asymmetricKeyLifecycleClientKmipv14
  | asymmetricKeyLifecycleServerKmipv14 | basicCryptographicClientKmipv14
  | basicCryptographicServerKmipv14 | advancedCryptographicClientKmipv14
  | advancedCryptographicServerKmipv14 | rngCryptographicClientKmipv14
  | rngCryptographicServerKmipv14 | basicSymmetricKeyFoundryClientKmipv14
  | intermediateSymmetricKeyFoundryClientKmipv14
  | advancedSymmetricKeyFoundryClientKmipv14 | symmetricKeyFoundryServerKmipv14
  | opaqueManagedObjectStoreClientKmipv14
  | opaqueManagedObjectStoreServerKmipv14 | suiteBMinlos128ClientKmipv14
  | suiteBMinlos128ServerKmipv14 | suiteBMinlos192ClientKmipv14
  | suiteBMinlos192ServerKmipv14
  | storageArrayWithSelfEncryptingDriveClientKmipv14
  | storageArrayWithSelfEncryptingDriveServerKmipv14 | httpsClientKmipv14
  | httpsServerKmipv14 | jsonClientKmipv14 | jsonServerKmipv14
  | xmlClientKmipv14 | xmlServerKmipv14 | completeServerBasic
  | completeServerTlsv12 | tapeLibraryClient | tapeLibraryServer
  | symmetricKeyLifecycleClient | symmetricKeyLifecycleServer
  | asymmetricKeyLifecycleClient | asymmetricKeyLifecycleServer
  | basicCryptographicClient | basicCryptographicServer
  | advancedCryptographicClient | advancedCryptographicServer
  | rngCryptographicClient | rngCryptographicServer
  | basicSymmetricKeyFoundryClient | intermediateSymmetricKeyFoundryClient
  | advancedSymmetricKeyFoundryClient | symmetricKeyFoundryServer
  | opaqueManagedObjectStoreClient | opaqueManagedObjectStoreServer
  | suiteBMinlos128Client | suiteBMinlos128Server | suiteBMinlos192Client
  | suiteBMinlos192Server | storageArrayWithSelfEncryptingDriveClient
  | storageArrayWithSelfEncryptingDriveServer | httpsClient | httpsServer
  | jsonClient | jsonServer | xmlClient | xmlServer | aesXtsClient
  | aesXtsServer | quantumSafeClient | quantumSafeServer | pkcs11Client
  | pkcs11Server | baselineClient | baselineServer | completeServer
deriving DecidableEq

inductive ValidationAuthorityType where
  | unspecified | nistCmvp | commonCriteria
deriving DecidableEq

inductive ValidationType where
  | unspecified | hardware | software | firmware | hybrid
deriving DecidableEq

inductive UnwrapMode where
  | unspecified | processed | notProcessed
deriving DecidableEq

inductive DestroyAction where
  | unspecified | keyMaterialDeleted | keyMaterialShredded | metadataDeleted
  | metadataShredded | deleted | shredded
deriving DecidableEq

inductive ShreddingAlgorithm where
  | unspecified | cryptographic | unsupported
deriving DecidableEq

inductive RNGMode where
  | unspecified | sharedInstantiation | nonSharedInstantiation
deriving DecidableEq

inductive ClientRegistrationMethod where
  | unspecified | serverPregenerated | serverOnDemand | clientGenerated
  | clientRegistered
deriving DecidableEq

theorem Coded.three_few : 3 < 256 ^ 4 := by decide

theorem Coded.five_few : 5 < 256 ^ 4 := by decide

theorem Coded.seven_few : 7 < 256 ^ 4 := by decide

theorem Coded.seventy_few : 70 < 256 ^ 4 := by decide

instance : Coded RNGAlgorithm :=
  .inOrder RNGAlgorithm.ctorIdx .ofNat 6 RNGAlgorithm.ofNat_ctorIdx
    (fun value => by cases value <;> decide) Coded.six_few

instance : Coded DRBGAlgorithm :=
  .inOrder DRBGAlgorithm.ctorIdx .ofNat 5 DRBGAlgorithm.ofNat_ctorIdx
    (fun value => by cases value <;> decide) Coded.five_few

instance : Coded RecommendedCurve :=
  .inOrder RecommendedCurve.ctorIdx .ofNat 70 RecommendedCurve.ofNat_ctorIdx
    (fun value => by cases value <;> decide) Coded.seventy_few

instance : Coded FIPS186Variation :=
  .inOrder FIPS186Variation.ctorIdx .ofNat 7 FIPS186Variation.ofNat_ctorIdx
    (fun value => by cases value <;> decide) Coded.seven_few

instance : Coded ValidationAuthorityType :=
  .inOrder ValidationAuthorityType.ctorIdx .ofNat 3 ValidationAuthorityType.ofNat_ctorIdx
    (fun value => by cases value <;> decide) Coded.three_few

instance : Coded ValidationType :=
  .inOrder ValidationType.ctorIdx .ofNat 5 ValidationType.ofNat_ctorIdx
    (fun value => by cases value <;> decide) Coded.five_few

instance : Coded UnwrapMode :=
  .inOrder UnwrapMode.ctorIdx .ofNat 3 UnwrapMode.ofNat_ctorIdx
    (fun value => by cases value <;> decide) Coded.three_few

instance : Coded DestroyAction :=
  .inOrder DestroyAction.ctorIdx .ofNat 7 DestroyAction.ofNat_ctorIdx
    (fun value => by cases value <;> decide) Coded.seven_few

instance : Coded ShreddingAlgorithm :=
  .inOrder ShreddingAlgorithm.ctorIdx .ofNat 3 ShreddingAlgorithm.ofNat_ctorIdx
    (fun value => by cases value <;> decide) Coded.three_few

instance : Coded RNGMode :=
  .inOrder RNGMode.ctorIdx .ofNat 3 RNGMode.ofNat_ctorIdx
    (fun value => by cases value <;> decide) Coded.three_few

instance : Coded ClientRegistrationMethod :=
  .inOrder ClientRegistrationMethod.ctorIdx .ofNat 5 ClientRegistrationMethod.ofNat_ctorIdx
    (fun value => by cases value <;> decide) Coded.five_few

/-- The codes from 0x9D to 0x103 name no profile. -/
instance : Coded ProfileName where
  code profile :=
    if profile.ctorIdx ≤ 155 then profile.ctorIdx + 1
    else profile.ctorIdx + 104
  ofCode? code :=
    if 1 ≤ code ∧ code ≤ 156 then some (.ofNat (code - 1))
    else if 260 ≤ code ∧ code ≤ 300 then some (.ofNat (code - 104))
    else none
  ofCode?_code profile := by cases profile <;> rfl
  code_lt profile := by cases profile <;> decide

end Enumerations

section Objects

/-- The object is not known to the versions before one. -/
def fromVersion (supported version : KmipVersion) (object : String)
    (field : RequestField α) : RequestField α where
  tag := field.tag
  reading :=
    if supported ≤ version then field.reading
    else .throw (.versionNotSupported (object ++ " object") version)

def writeFromVersion (supported version : KmipVersion) (object : String)
    (writing : Writing) : Writing :=
  if supported ≤ version then writing
  else .error (.versionNotSupported (object ++ " object") version)

def unset (object field : String) : CodecError :=
  .invalidField
    ("The " ++ object ++ " structure is missing the " ++ field ++ " field.")

def notEncoded (object field : String) : CodecError :=
  .invalidKmipEncoding
    ("The " ++ object ++ " encoding is missing the " ++ field ++ ".")

structure ExtensionInformation where
  extensionName : String
  extensionTag : Option Int
  extensionType : Option Int
deriving DecidableEq

def extensionInformationItem : Item ExtensionInformation :=
  structItem .extensionInformation
    (.always (textStringItem .extensionName) <|
      .optional (integerItem .extensionTag) <|
      .optional (integerItem .extensionType) .nil)
    (fun information => (information.extensionName, information.extensionTag,
      information.extensionType, ()))
    (fun (extensionName, extensionTag, extensionType, ()) =>
      ⟨extensionName, extensionTag, extensionType⟩)

def tracedExtensionInformation : Traced 8 extensionInformationItem :=
  tracedStruct <|
    .always (tracedTextString .extensionName) <|
    .optional (tracedInteger .extensionTag) <|
    .optional (tracedInteger .extensionType) .nil

structure RNGParameters where
  rngAlgorithm : Option RNGAlgorithm
  cryptographicAlgorithm : Option CryptographicAlgorithm
  cryptographicLength : Option Int
  hashingAlgorithm : Option HashingAlgorithm
  drbgAlgorithm : Option DRBGAlgorithm
  recommendedCurve : Option RecommendedCurve
  fips186Variation : Option FIPS186Variation
  predictionResistance : Option Bool
deriving DecidableEq

def rngParametersItem : Item RNGParameters :=
  structItem .rngParameters
    (.demanded (enumerationItem RNGAlgorithm .rngAlgorithm)
        (unset "RNGParameters" "RNG algorithm")
        (notEncoded "RNGParameters" "RNG algorithm") <|
      .optional (enumerationItem CryptographicAlgorithm
        .cryptographicAlgorithm) <|
      .optional (integerItem .cryptographicLength) <|
      .optional (enumerationItem HashingAlgorithm .hashingAlgorithm) <|
      .optional (enumerationItem DRBGAlgorithm .drbgAlgorithm) <|
      .optional (enumerationItem RecommendedCurve .recommendedCurve) <|
      .optional (enumerationItem FIPS186Variation .fips186Variation) <|
      .optional (booleanItem .predictionResistance) .nil)
    (fun parameters => (parameters.rngAlgorithm,
      parameters.cryptographicAlgorithm, parameters.cryptographicLength,
      parameters.hashingAlgorithm, parameters.drbgAlgorithm,
      parameters.recommendedCurve, parameters.fips186Variation,
      parameters.predictionResistance, ()))
    (fun (rngAlgorithm, cryptographicAlgorithm, cryptographicLength,
        hashingAlgorithm, drbgAlgorithm, recommendedCurve, fips186Variation,
        predictionResistance, ()) =>
      ⟨rngAlgorithm, cryptographicAlgorithm, cryptographicLength,
        hashingAlgorithm, drbgAlgorithm, recommendedCurve, fips186Variation,
        predictionResistance⟩)

def tracedRngParameters : Traced 8 rngParametersItem :=
  tracedStruct <|
    .demanded (tracedEnumeration RNGAlgorithm .rngAlgorithm) <|
    .optional (tracedEnumeration CryptographicAlgorithm
      .cryptographicAlgorithm) <|
    .optional (tracedInteger .cryptographicLength) <|
    .optional (tracedEnumeration HashingAlgorithm .hashingAlgorithm) <|
    .optional (tracedEnumeration DRBGAlgorithm .drbgAlgorithm) <|
    .optional (tracedEnumeration RecommendedCurve .recommendedCurve) <|
    .optional (tracedEnumeration FIPS186Variation .fips186Variation) <|
    .optional (tracedBoolean .predictionResistance) .nil

structure ProfileInformation where
  profileName : Option ProfileName
  serverUri : Option String
  serverPort : Option Int
deriving DecidableEq

def profileInformationItem : Item ProfileInformation :=
  structItem .profileInformation
    (.demanded (enumerationItem ProfileName .profileName)
        (unset "ProfileInformation" "profile name")
        (notEncoded "ProfileInformation" "profile name") <|
      .optional (textStringItem .serverUri) <|
      .optional (integerItem .serverPort) .nil)
    (fun information =>
      (information.profileName, information.serverUri, information.serverPort,
        ()))
    (fun (profileName, serverUri, serverPort, ()) =>
      ⟨profileName, serverUri, serverPort⟩)

def tracedProfileInformation : Traced 8 profileInformationItem :=
  tracedStruct <|
    .demanded (tracedEnumeration ProfileName .profileName) <|
    .optional (tracedTextString .serverUri) <|
    .optional (tracedInteger .serverPort) .nil

structure ValidationInformation where
  validationAuthorityType : Option ValidationAuthorityType
  validationAuthorityCountry : Option String
  validationAuthorityUri : Option String
  validationVersionMajor : Option Int
  validationVersionMinor : Option Int
  validationType : Option ValidationType
  validationLevel : Option Int
  validationCertificateIdentifier : Option String
  validationCertificateUri : Option String
  validationVendorUri : Option String
  validationProfiles : List String
deriving DecidableEq

def validationInformationItem : Item ValidationInformation :=
  structItem .validationInformation
    (.demanded (enumerationItem ValidationAuthorityType
          .validationAuthorityType)
        (unset "ValidationInformation" "validation authority type")
        (notEncoded "ValidationInformation" "validation authority type") <|
      .optional (textStringItem .validationAuthorityCountry) <|
      .optional (textStringItem .validationAuthorityUri) <|
      .demanded (integerItem .validationVersionMajor)
        (unset "ValidationInformation" "validation version major")
        (notEncoded "ValidationInformation" "validation version major") <|
      .optional (integerItem .validationVersionMinor) <|
      .demanded (enumerationItem ValidationType .validationType)
        (unset "ValidationInformation" "validation type")
        (notEncoded "ValidationInformation" "validation type") <|
      .demanded (integerItem .validationLevel)
        (unset "ValidationInformation" "validation level")
        (notEncoded "ValidationInformation" "validation level") <|
      .optional (textStringItem .validationCertificateIdentifier) <|
      .optional (textStringItem .validationCertificateUri) <|
      .optional (textStringItem .validationVendorUri) <|
      .many (textStringItem .validationProfile) .nil)
    (fun information => (information.validationAuthorityType,
      information.validationAuthorityCountry,
      information.validationAuthorityUri, information.validationVersionMajor,
      information.validationVersionMinor, information.validationType,
      information.validationLevel, information.validationCertificateIdentifier,
      information.validationCertificateUri, information.validationVendorUri,
      information.validationProfiles, ()))
    (fun (validationAuthorityType, validationAuthorityCountry,
        validationAuthorityUri, validationVersionMajor, validationVersionMinor,
        validationType, validationLevel, validationCertificateIdentifier,
        validationCertificateUri, validationVendorUri, validationProfiles, ()) =>
      ⟨validationAuthorityType, validationAuthorityCountry,
        validationAuthorityUri, validationVersionMajor, validationVersionMinor,
        validationType, validationLevel, validationCertificateIdentifier,
        validationCertificateUri, validationVendorUri, validationProfiles⟩)

def tracedValidationInformation : Traced 8 validationInformationItem :=
  tracedStruct <|
    .demanded (tracedEnumeration ValidationAuthorityType
      .validationAuthorityType) <|
    .optional (tracedTextString .validationAuthorityCountry) <|
    .optional (tracedTextString .validationAuthorityUri) <|
    .demanded (tracedInteger .validationVersionMajor) <|
    .optional (tracedInteger .validationVersionMinor) <|
    .demanded (tracedEnumeration ValidationType .validationType) <|
    .demanded (tracedInteger .validationLevel) <|
    .optional (tracedTextString .validationCertificateIdentifier) <|
    .optional (tracedTextString .validationCertificateUri) <|
    .optional (tracedTextString .validationVendorUri) <|
    .many (tracedTextString .validationProfile) .nil

structure CapabilityInformation where
  streamingCapability : Option Bool
  asynchronousCapability : Option Bool
  attestationCapability : Option Bool
  batchUndoCapability : Option Bool
  batchContinueCapability : Option Bool
  unwrapMode : Option UnwrapMode
  destroyAction : Option DestroyAction
  shreddingAlgorithm : Option ShreddingAlgorithm
  rngMode : Option RNGMode
deriving DecidableEq

/-- A field of the versions from one on. -/
def sinceVersion (supported version : KmipVersion) (field : RequestField α) :
    RequestReading (Option α) :=
  if supported ≤ version then optional field else return none

/-- `CapabilityInformation.read`: what is read of undoing a batch is kept as
what is read of continuing one. -/
def capabilityInformation (version : KmipVersion) :
    RequestField CapabilityInformation :=
  fromVersion .kmip13 version "CapabilityInformation" <|
    struct .capabilityInformation do
      let streamingCapability ← optional (boolean .streamingCapability)
      let asynchronousCapability ← optional (boolean .asynchronousCapability)
      let attestationCapability ← optional (boolean .attestationCapability)
      let undo ← sinceVersion .kmip14 version (boolean .batchUndoCapability)
      let continued ← sinceVersion .kmip14 version
        (boolean .batchContinueCapability)
      let unwrapMode ← optional (enumeration UnwrapMode .unwrapMode)
      let destroyAction ← optional (enumeration DestroyAction .destroyAction)
      let shreddingAlgorithm ← optional
        (enumeration ShreddingAlgorithm .shreddingAlgorithm)
      let rngMode ← optional (enumeration RNGMode .rngMode)
      notOversized
      return { streamingCapability, asynchronousCapability,
               attestationCapability
               batchUndoCapability := none
               batchContinueCapability := continued <|> undo
               unwrapMode, destroyAction, shreddingAlgorithm, rngMode }

def writeCapabilityInformation (version : KmipVersion)
    (information : CapabilityInformation) : Writing :=
  writeFromVersion .kmip13 version "CapabilityInformation" <|
    writeFields .capabilityInformation
      [writePresent (writeFlag .streamingCapability)
         information.streamingCapability,
       writePresent (writeFlag .asynchronousCapability)
         information.asynchronousCapability,
       writePresent (writeFlag .attestationCapability)
         information.attestationCapability,
       since .kmip14 version (writePresent (writeFlag .batchUndoCapability)
         information.batchUndoCapability),
       since .kmip14 version (writePresent (writeFlag .batchContinueCapability)
         information.batchContinueCapability),
       writePresent (writeMember .unwrapMode) information.unwrapMode,
       writePresent (writeMember .destroyAction) information.destroyAction,
       writePresent (writeMember .shreddingAlgorithm)
         information.shreddingAlgorithm,
       writePresent (writeMember .rngMode) information.rngMode]

structure ObjectDefaults where
  objectType : ObjectType
  attributes : List (Tag × ValueObject)
deriving DecidableEq

/-- The attributes structure as it is. -/
def plainAttributes (version : KmipVersion) :
    RequestField (List (Tag × ValueObject)) where
  tag := .attributes
  reading := ((Attributes.tracing .attributes version).mapError
    .attributes).map Attributes.attributes

def writePlainAttributes (version : KmipVersion)
    (attributes : List (Tag × ValueObject)) : Writing :=
  (Attributes.write version { attributes }).mapError .attributes

def objectDefaults (version : KmipVersion) : RequestField ObjectDefaults :=
  fromVersion .kmip20 version "ObjectDefaults" <|
    struct .objectDefaults do
      let objectType ← demanded
        (.codec (notEncoded "ObjectDefaults" "object type enumeration"))
        (enumeration ObjectType .objectType)
      let attributes ← demanded
        (.codec (notEncoded "ObjectDefaults" "attributes structure"))
        (plainAttributes version)
      notOversized
      return { objectType, attributes }

def writeObjectDefaults (version : KmipVersion) (defaults : ObjectDefaults) :
    Writing :=
  writeFromVersion .kmip20 version "ObjectDefaults" <|
    writeFields .objectDefaults
      [writeMember .objectType defaults.objectType,
       writePlainAttributes version defaults.attributes]

def defaultsInformation (version : KmipVersion) :
    RequestField (List ObjectDefaults) :=
  fromVersion .kmip20 version "DefaultsInformation" <|
    struct .defaultsInformation do
      let objectDefaults ← many (objectDefaults version)
      if objectDefaults = [] then
        raise (.codec
          (notEncoded "DefaultsInformation" "object defaults structure"))
      else do
        notOversized
        return objectDefaults

def writeDefaultsInformation (version : KmipVersion)
    (objectDefaults : List ObjectDefaults) : Writing :=
  writeFromVersion .kmip20 version "DefaultsInformation" <|
    writeFields .defaultsInformation
      [refuseUnless (objectDefaults ≠ [])
         (.codec (unset "DefaultsInformation" "object defaults")),
       writeAll (objectDefaults.map (writeObjectDefaults version))]

/-- `ServerInformation.read`: the data is not looked at. -/
def serverInformation : RequestField Bytes :=
  struct .serverInformation do
    let data ← readRestTracing.mapError RequestError.codec
    notOversized
    return data

def writeServerInformation (data : Bytes) : Writing :=
  writeFields .serverInformation [.ok data]

end Objects

end PyKMIP.Wire
