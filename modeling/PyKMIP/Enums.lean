import Mathlib.Tactic.Common

/-!
# Enumerations of the protocol

The members stand in the order in which the source declares them; `name` is
the member's own name, which the server writes into some of its messages.
-/

namespace PyKMIP

inductive ObjectType where
  | certificate | symmetricKey | publicKey | privateKey | splitKey | template
  | secretData | opaqueData | pgpKey | certificateRequest
deriving DecidableEq, Repr

def ObjectType.name : ObjectType → String
  | .certificate => "CERTIFICATE"
  | .symmetricKey => "SYMMETRIC_KEY"
  | .publicKey => "PUBLIC_KEY"
  | .privateKey => "PRIVATE_KEY"
  | .splitKey => "SPLIT_KEY"
  | .template => "TEMPLATE"
  | .secretData => "SECRET_DATA"
  | .opaqueData => "OPAQUE_DATA"
  | .pgpKey => "PGP_KEY"
  | .certificateRequest => "CERTIFICATE_REQUEST"

inductive Operation where
  | create | createKeyPair | register | rekey | deriveKey | certify
  | recertify | locate | check | get | getAttributes | getAttributeList
  | addAttribute | modifyAttribute | deleteAttribute | obtainLease
  | getUsageAllocation | activate | revoke | destroy | archive | recover
  | validate | query | cancel | poll | notify | put | rekeyKeyPair
  | discoverVersions | encrypt | decrypt | sign | signatureVerify | mac
  | macVerify | rngRetrieve | rngSeed | hash | createSplitKey | joinSplitKey
  | importObject | exportObject | log | login | logout | delegatedLogin
  | adjustAttribute | setAttribute | setEndpointRole | pkcs11 | interop
  | reprovision
deriving DecidableEq, Repr

def Operation.name : Operation → String
  | .create => "CREATE"
  | .createKeyPair => "CREATE_KEY_PAIR"
  | .register => "REGISTER"
  | .rekey => "REKEY"
  | .deriveKey => "DERIVE_KEY"
  | .certify => "CERTIFY"
  | .recertify => "RECERTIFY"
  | .locate => "LOCATE"
  | .check => "CHECK"
  | .get => "GET"
  | .getAttributes => "GET_ATTRIBUTES"
  | .getAttributeList => "GET_ATTRIBUTE_LIST"
  | .addAttribute => "ADD_ATTRIBUTE"
  | .modifyAttribute => "MODIFY_ATTRIBUTE"
  | .deleteAttribute => "DELETE_ATTRIBUTE"
  | .obtainLease => "OBTAIN_LEASE"
  | .getUsageAllocation => "GET_USAGE_ALLOCATION"
  | .activate => "ACTIVATE"
  | .revoke => "REVOKE"
  | .destroy => "DESTROY"
  | .archive => "ARCHIVE"
  | .recover => "RECOVER"
  | .validate => "VALIDATE"
  | .query => "QUERY"
  | .cancel => "CANCEL"
  | .poll => "POLL"
  | .notify => "NOTIFY"
  | .put => "PUT"
  | .rekeyKeyPair => "REKEY_KEY_PAIR"
  | .discoverVersions => "DISCOVER_VERSIONS"
  | .encrypt => "ENCRYPT"
  | .decrypt => "DECRYPT"
  | .sign => "SIGN"
  | .signatureVerify => "SIGNATURE_VERIFY"
  | .mac => "MAC"
  | .macVerify => "MAC_VERIFY"
  | .rngRetrieve => "RNG_RETRIEVE"
  | .rngSeed => "RNG_SEED"
  | .hash => "HASH"
  | .createSplitKey => "CREATE_SPLIT_KEY"
  | .joinSplitKey => "JOIN_SPLIT_KEY"
  | .importObject => "IMPORT"
  | .exportObject => "EXPORT"
  | .log => "LOG"
  | .login => "LOGIN"
  | .logout => "LOGOUT"
  | .delegatedLogin => "DELEGATED_LOGIN"
  | .adjustAttribute => "ADJUST_ATTRIBUTE"
  | .setAttribute => "SET_ATTRIBUTE"
  | .setEndpointRole => "SET_ENDPOINT_ROLE"
  | .pkcs11 => "PKCS_11"
  | .interop => "INTEROP"
  | .reprovision => "REPROVISION"

inductive State where
  | preActive | active | deactivated | compromised | destroyed
  | destroyedCompromised
deriving DecidableEq, Repr

inductive CryptographicUsageMask where
  | sign | verify | encrypt | decrypt | wrapKey | unwrapKey | exportKey
  | macGenerate | macVerify | deriveKey | contentCommitment | keyAgreement
  | certificateSign | crlSign | generateCryptogram | validateCryptogram
  | translateEncrypt | translateDecrypt | translateWrap | translateUnwrap
  | authenticate | unrestricted | fpeEncrypt | fpeDecrypt
deriving DecidableEq, Repr

/-- The bit of a mask member in the integer the protocol sends. -/
def CryptographicUsageMask.value : CryptographicUsageMask → Nat
  | .sign => 0x00000001
  | .verify => 0x00000002
  | .encrypt => 0x00000004
  | .decrypt => 0x00000008
  | .wrapKey => 0x00000010
  | .unwrapKey => 0x00000020
  | .exportKey => 0x00000040
  | .macGenerate => 0x00000080
  | .macVerify => 0x00000100
  | .deriveKey => 0x00000200
  | .contentCommitment => 0x00000400
  | .keyAgreement => 0x00000800
  | .certificateSign => 0x00001000
  | .crlSign => 0x00002000
  | .generateCryptogram => 0x00004000
  | .validateCryptogram => 0x00008000
  | .translateEncrypt => 0x00010000
  | .translateDecrypt => 0x00020000
  | .translateWrap => 0x00040000
  | .translateUnwrap => 0x00080000
  | .authenticate => 0x00100000
  | .unrestricted => 0x00200000
  | .fpeEncrypt => 0x00400000
  | .fpeDecrypt => 0x00800000

/-- The members in the order in which the enumeration is iterated. -/
def CryptographicUsageMask.all : List CryptographicUsageMask :=
  [.sign, .verify, .encrypt, .decrypt, .wrapKey, .unwrapKey, .exportKey,
   .macGenerate, .macVerify, .deriveKey, .contentCommitment, .keyAgreement,
   .certificateSign, .crlSign, .generateCryptogram, .validateCryptogram,
   .translateEncrypt, .translateDecrypt, .translateWrap, .translateUnwrap,
   .authenticate, .unrestricted, .fpeEncrypt, .fpeDecrypt]

inductive CryptographicAlgorithm where
  | des | tripleDes | aes | rsa | dsa | ecdsa | hmacSha1 | hmacSha224
  | hmacSha256 | hmacSha384 | hmacSha512 | hmacMd5 | dh | ecdh | ecmqv
  | blowfish | camellia | cast5 | idea | mars | rc2 | rc4 | rc5 | skipjack
  | twofish | ec | oneTimePad | chacha20 | poly1305 | chacha20Poly1305
  | sha3224 | sha3256 | sha3384 | sha3512 | hmacSha3224 | hmacSha3256
  | hmacSha3384 | hmacSha3512 | shake128 | shake256 | aria | seed | sm2 | sm3
  | sm4 | gostR34102012 | gostR34112012 | gostR34132015 | gost2814789 | xmss
  | sphincs256 | mceliece | mceliece6960119 | mceliece8192128 | ed25519
  | ed448
deriving DecidableEq, Repr

inductive KeyFormatType where
  | raw | opaqueBytes | pkcs1 | pkcs8 | x509 | ecPrivateKey
  | transparentSymmetricKey | transparentDsaPrivateKey
  | transparentDsaPublicKey | transparentRsaPrivateKey
  | transparentRsaPublicKey | transparentDhPrivateKey
  | transparentDhPublicKey | transparentEcdsaPrivateKey
  | transparentEcdsaPublicKey | transparentEcdhPrivateKey
  | transparentEcdhPublicKey | transparentEcmqvPrivateKey
  | transparentEcmqvPublicKey | transparentEcPrivateKey
  | transparentEcPublicKey | pkcs12
deriving DecidableEq, Repr

def KeyFormatType.name : KeyFormatType → String
  | .raw => "RAW"
  | .opaqueBytes => "OPAQUE"
  | .pkcs1 => "PKCS_1"
  | .pkcs8 => "PKCS_8"
  | .x509 => "X_509"
  | .ecPrivateKey => "EC_PRIVATE_KEY"
  | .transparentSymmetricKey => "TRANSPARENT_SYMMETRIC_KEY"
  | .transparentDsaPrivateKey => "TRANSPARENT_DSA_PRIVATE_KEY"
  | .transparentDsaPublicKey => "TRANSPARENT_DSA_PUBLIC_KEY"
  | .transparentRsaPrivateKey => "TRANSPARENT_RSA_PRIVATE_KEY"
  | .transparentRsaPublicKey => "TRANSPARENT_RSA_PUBLIC_KEY"
  | .transparentDhPrivateKey => "TRANSPARENT_DH_PRIVATE_KEY"
  | .transparentDhPublicKey => "TRANSPARENT_DH_PUBLIC_KEY"
  | .transparentEcdsaPrivateKey => "TRANSPARENT_ECDSA_PRIVATE_KEY"
  | .transparentEcdsaPublicKey => "TRANSPARENT_ECDSA_PUBLIC_KEY"
  | .transparentEcdhPrivateKey => "TRANSPARENT_ECDH_PRIVATE_KEY"
  | .transparentEcdhPublicKey => "TRANSPARENT_ECDH_PUBLIC_KEY"
  | .transparentEcmqvPrivateKey => "TRANSPARENT_ECMQV_PRIVATE_KEY"
  | .transparentEcmqvPublicKey => "TRANSPARENT_ECMQV_PUBLIC_KEY"
  | .transparentEcPrivateKey => "TRANSPARENT_EC_PRIVATE_KEY"
  | .transparentEcPublicKey => "TRANSPARENT_EC_PUBLIC_KEY"
  | .pkcs12 => "PKCS_12"

inductive KeyCompressionType where
  | ecPublicKeyTypeUncompressed | ecPublicKeyTypeX962CompressedPrime
  | ecPublicKeyTypeX962CompressedChar2 | ecPublicKeyTypeX962Hybrid
deriving DecidableEq, Repr

inductive CertificateType where
  | x509 | pgp
deriving DecidableEq, Repr

inductive SecretDataType where
  | password | seed
deriving DecidableEq, Repr

inductive OpaqueDataType where
  | none
deriving DecidableEq, Repr

inductive SplitKeyMethod where
  | xor | polynomialSharingGf216 | polynomialSharingPrimeField
  | polynomialSharingGf28
deriving DecidableEq, Repr

inductive NameType where
  | uninterpretedTextString | uri
deriving DecidableEq, Repr

inductive RevocationReasonCode where
  | unspecified | keyCompromise | caCompromise | affiliationChanged
  | superseded | cessationOfOperation | privilegeWithdrawn
deriving DecidableEq, Repr

inductive WrappingMethod where
  | encrypt | macSign | encryptThenMacSign | macSignThenEncrypt | tr31
deriving DecidableEq, Repr

def WrappingMethod.name : WrappingMethod → String
  | .encrypt => "ENCRYPT"
  | .macSign => "MAC_SIGN"
  | .encryptThenMacSign => "ENCRYPT_THEN_MAC_SIGN"
  | .macSignThenEncrypt => "MAC_SIGN_THEN_ENCRYPT"
  | .tr31 => "TR_31"

inductive EncodingOption where
  | noEncoding | ttlvEncoding
deriving DecidableEq, Repr

def EncodingOption.name : EncodingOption → String
  | .noEncoding => "NO_ENCODING"
  | .ttlvEncoding => "TTLV_ENCODING"

inductive BlockCipherMode where
  | cbc | ecb | pcbc | cfb | ofb | ctr | cmac | ccm | gcm | cbcMac | xts
  | aesKeyWrapPadding | nistKeyWrap | x9102Aeskw | x9102Tdkw | x9102Akw1
  | x9102Akw2 | aead
deriving DecidableEq, Repr

inductive PaddingMethod where
  | none | oaep | pkcs5 | ssl3 | zeros | ansiX923 | iso10126 | pkcs1v15
  | x931 | pss
deriving DecidableEq, Repr

inductive HashingAlgorithm where
  | md2 | md4 | md5 | sha1 | sha224 | sha256 | sha384 | sha512 | ripemd160
  | tiger | whirlpool | sha512224 | sha512256 | sha3224 | sha3256 | sha3384
  | sha3512
deriving DecidableEq, Repr

inductive DigitalSignatureAlgorithm where
  | md2WithRsaEncryption | md5WithRsaEncryption | sha1WithRsaEncryption
  | sha224WithRsaEncryption | sha256WithRsaEncryption
  | sha384WithRsaEncryption | sha512WithRsaEncryption | rsassaPss
  | dsaWithSha1 | dsaWithSha224 | dsaWithSha256 | ecdsaWithSha1
  | ecdsaWithSha224 | ecdsaWithSha256 | ecdsaWithSha384 | ecdsaWithSha512
  | sha3256WithRsaEncryption | sha3384WithRsaEncryption
  | sha3512WithRsaEncryption
deriving DecidableEq, Repr

inductive KeyRoleType where
  | bdk | cvk | dek | mkac | mksmc | mksmi | mkdac | mkdn | mkcp | mkoth
  | kek | mac16609 | mac97971 | mac97972 | mac97973 | mac97974 | mac97975
  | zpk | pvkibm | pvkpvv | pvkoth | dukpt | iv | trkbk
deriving DecidableEq, Repr

inductive MaskGenerator where
  | mgf1
deriving DecidableEq, Repr

inductive DerivationMethod where
  | pbkdf2 | hash | hmac | encrypt | nist800108C | nist800108F
  | nist800108Dpi | asymmetricKey | awsSignatureVersion4 | hkdf
deriving DecidableEq, Repr

inductive ValidityIndicator where
  | valid | invalid | unknown
deriving DecidableEq, Repr

inductive QueryFunction where
  | queryOperations | queryObjects | queryServerInformation
  | queryApplicationNamespaces | queryExtensionList | queryExtensionMap
  | queryAttestationTypes | queryRngs | queryValidations | queryProfiles
  | queryCapabilities | queryClientRegistrationMethods
  | queryDefaultsInformation | queryStorageProtectionMasks
deriving DecidableEq, Repr

inductive BatchErrorContinuationOption where
  | continue | stop | undo
deriving DecidableEq, Repr

inductive ResultStatus where
  | success | operationFailed | operationPending | operationUndone
deriving DecidableEq, Repr

inductive ResultReason where
  | itemNotFound | responseTooLarge | authenticationNotSuccessful
  | invalidMessage | operationNotSupported | missingData | invalidField
  | featureNotSupported | operationCanceledByRequester | cryptographicFailure
  | illegalOperation | permissionDenied | objectArchived | indexOutOfBounds
  | applicationNamespaceNotSupported | keyFormatTypeNotSupported
  | keyCompressionTypeNotSupported | encodingOptionError | keyValueNotPresent
  | attestationRequired | attestationFailed | sensitive | notExtractable
  | objectAlreadyExists | generalFailure | invalidTicket | usageLimitExceeded
  | numericRange | invalidDataType | readOnlyAttribute | multiValuedAttribute
  | unsupportedAttribute | attributeInstanceNotFound | attributeNotFound
  | attributeReadOnly | attributeSingleValued | badCryptographicParameters
  | badPassword | codecError | illegalObjectType
  | incompatibleCryptographicUsageMask | internalServerError
  | invalidAsynchronousCorrelationValue | invalidAttribute
  | invalidAttributeValue | invalidCorrelationValue | invalidCsr
  | invalidObjectType | keyWrapTypeNotSupported | missingInitializationVector
  | nonUniqueNameAttribute | objectDestroyed | objectNotFound | notAuthorised
  | serverLimitExceeded | unknownEnumeration | unknownMessageExtension
  | unknownTag | unsupportedCryptographicParameters
  | unsupportedProtocolVersion | wrappingObjectArchived
  | wrappingObjectDestroyed | wrappingObjectNotFound | wrongKeyLifecycleState
  | protectionStorageUnavailable | pkcs11CodecError | pkcs11InvalidFunction
  | pkcs11InvalidInterface
deriving DecidableEq, Repr

inductive Policy where
  | allowAll | allowOwner | disallowAll
deriving DecidableEq, Repr

end PyKMIP
