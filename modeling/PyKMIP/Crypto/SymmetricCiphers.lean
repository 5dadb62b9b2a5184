import PyKMIP.Crypto.Package
import PyKMIP.Engine.Creation

/-!
# Encryption and decryption

Two routines that choose the algorithm, the mode and the padding each on its
own.  A missing nonce is generated when encrypting, and returned then.
-/

namespace PyKMIP

variable (package : Cryptography)

section Parts

/-- The classes of modes. -/
inductive ModeClass where
  | cbc | ecb | ofb | cfb | ctr | gcm
deriving DecidableEq, Repr

def modes : BlockCipherMode → Option ModeClass
  | .cbc => some .cbc
  | .ecb => some .ecb
  | .ofb => some .ofb
  | .cfb => some .cfb
  | .ctr => some .ctr
  | .gcm => some .gcm
  | _ => none

/-- The mode with an initialization vector or nonce; the tag and its least length
are those of the mode that has one. -/
def ModeClass.mode (modeClass : ModeClass) (ivNonce : Bytes)
    (tag : Option Bytes) (minTagLength : Int) : CipherMode :=
  match modeClass with
  | .cbc => .cbc ivNonce
  | .ecb => .ecb
  | .ofb => .ofb ivNonce
  | .cfb => .cfb ivNonce
  | .ctr => .ctr ivNonce
  | .gcm => .gcm ivNonce tag minTagLength

/-- `bytes` arguments may be `None`, which no context accepts. -/
def contextBytes : Option Bytes → Except PyError Bytes
  | some data => .ok data
  | none => .error (.python .typeError)

/-- The class attribute `block_size`, which stream ciphers lack. -/
def blockSizeOf (algorithm : CipherAlgorithm) : Except PyError Nat :=
  match algorithm.blockSize with
  | some blockSize => .ok blockSize
  | none => .error (.python .attributeError)

def handleSymmetricPadding (algorithm : CipherAlgorithm)
    (plainText : Option Bytes) (paddingMethod : Option PaddingMethod)
    (undoPadding : Bool) : Except PyError Bytes :=
  match paddingMethod with
  | none => .error (invalidField "Padding method is required.")
  | some method =>
      match symmetricPaddingMethods method with
      | some padding => do
          let blockSize ← blockSizeOf algorithm
          let data ← contextBytes plainText
          if undoPadding then package.unpad padding blockSize data
          else package.pad padding blockSize data
      | none =>
          .error (invalidField
            ("Padding method '" ++ memberText "PaddingMethod" method.name ++
              "' is not supported."))

/-- The modes for which the data is padded. -/
def isPadded (cipherMode : Option BlockCipherMode) : Bool :=
  cipherMode = some .cbc || cipherMode = some .ecb

def isGcmMode (cipherMode : Option BlockCipherMode) : Bool :=
  cipherMode = some .gcm

def algorithmText (algorithm : CryptographicAlgorithm) : String :=
  memberText "CryptographicAlgorithm" algorithm.name

/-- Raise the exception when the condition holds. -/
def refuseWhen (condition : Bool) (exception : PyError) : Except PyError Unit :=
  if condition then .error exception else .ok ()

theorem refuseWhen_ok_iff {condition : Bool} {exception : PyError}
    {value : Unit} :
    refuseWhen condition exception = .ok value ↔ condition = false := by
  cases condition <;> simp [refuseWhen]

theorem refuseWhen_passes {condition : Bool} (passes : condition = false)
    (exception : PyError) : refuseWhen condition exception = .ok () :=
  refuseWhen_ok_iff.mpr passes

def symmetricAlgorithm (algorithm : CryptographicAlgorithm) (refusal : PyError) :
    Except PyError CipherAlgorithm :=
  match symmetricKeyAlgorithms algorithm with
  | some cipher => .ok cipher
  | none => .error refusal

/-- `algorithm(key)`. -/
def setKey (algorithm : CipherAlgorithm) (key : Bytes) (failure : PyError) :
    Except PyError Unit :=
  (package.newAlgorithm algorithm key).mapError fun _ => failure

def unsupportedMode (cipherMode : BlockCipherMode) : PyError :=
  invalidField
    ("Cipher mode '" ++ memberText "BlockCipherMode" cipherMode.name ++
      "' is not a supported mode.")

end Parts

section Encryption

/-- The mode to encrypt with, and the nonce that was generated for it. -/
def encryptionMode (encryptionAlgorithm : CryptographicAlgorithm)
    (algorithm : CipherAlgorithm) (cipherMode : Option BlockCipherMode)
    (ivNonce : Option Bytes) (authTagLength : Int) :
    Except PyError (Option CipherMode × Option Bytes) :=
  if encryptionAlgorithm = .rc4 then .ok (none, none)
  else
    match cipherMode with
    | none => .error (invalidField "Cipher mode is required.")
    | some cipherMode =>
        match modes cipherMode with
        | none => .error (unsupportedMode cipherMode)
        | some .ecb => do
            package.newMode .ecb
            return (some .ecb, none)
        | some modeClass => do
            let blockSize ← blockSizeOf algorithm
            let generated :=
              if ivNonce.isNone then some (package.urandom (blockSize / 8))
              else none
            let mode :=
              modeClass.mode ((ivNonce <|> generated).getD []) none
                authTagLength
            package.newMode mode
            return (some mode, generated)

/-- Only the context of a mode that authenticates takes additional data. -/
def authenticates (mode : Option CipherMode) : Bool :=
  (mode.map CipherMode.authenticates).getD false

/-- The result; only the context of a mode that authenticates has a tag. -/
def encryptionResult (cipherMode : Option BlockCipherMode)
    (mode : Option CipherMode) (generated : Option Bytes)
    (authTagLength : Option Int) (cipherText tag : Bytes) :
    Except PyError EncryptionResult :=
  if isGcmMode cipherMode then
    if authenticates mode then
      .ok {
        cipherText
        ivNonce := generated
        authTag := some (takeTo (authTagLength.getD 0) tag) }
    else .error (.python .attributeError)
  else .ok { cipherText, ivNonce := generated }

def paddedText (algorithm : CipherAlgorithm) (plainText : Option Bytes)
    (cipherMode : Option BlockCipherMode)
    (paddingMethod : Option PaddingMethod) : Except PyError (Option Bytes) :=
  if isPadded cipherMode then
    some <$> handleSymmetricPadding package algorithm plainText paddingMethod
      false
  else .ok plainText

def encryptSymmetric (encryptionAlgorithm : CryptographicAlgorithm)
    (encryptionKey : Bytes) (plainText : Option Bytes)
    (cipherMode : Option BlockCipherMode) (paddingMethod : Option PaddingMethod)
    (ivNonce authAdditionalData : Option Bytes) (authTagLength : Option Int) :
    Except PyError EncryptionResult := do
  let algorithm ← symmetricAlgorithm encryptionAlgorithm
    (invalidField
      ("Encryption algorithm '" ++ algorithmText encryptionAlgorithm ++
        "' is not a supported symmetric encryption algorithm."))
  setKey package algorithm encryptionKey
    (cryptographicFailure
      "Invalid key bytes for the specified encryption algorithm.")
  refuseWhen (!isGcmMode cipherMode && authAdditionalData.isSome)
    (invalidField
      ("Authenticated encryption additional data is supported " ++
        "in GCM mode only."))
  refuseWhen (isGcmMode cipherMode && authTagLength.isNone)
    (invalidField
      ("Authenticated encryption tag length must be provided " ++
        "in GCM mode only."))
  let (mode, generated) ← encryptionMode package encryptionAlgorithm algorithm
    cipherMode ivNonce (authTagLength.getD 0)
  let plainText ← paddedText package algorithm plainText cipherMode paddingMethod
  refuseWhen (authAdditionalData.isSome && !authenticates mode)
    (.python .attributeError)
  let data ← contextBytes plainText
  let (cipherText, tag) ←
    package.encrypt algorithm encryptionKey mode authAdditionalData data
  encryptionResult cipherMode mode generated authTagLength cipherText tag

end Encryption

section Decryption

def decryptionMode (decryptionAlgorithm : CryptographicAlgorithm)
    (cipherMode : Option BlockCipherMode)
    (ivNonce authTag : Option Bytes) : Except PyError (Option CipherMode) :=
  if decryptionAlgorithm = .rc4 then .ok none
  else
    match cipherMode with
    | none => .error (invalidField "Cipher mode is required.")
    | some cipherMode =>
        match modes cipherMode with
        | none => .error (unsupportedMode cipherMode)
        | some .ecb => do
            package.newMode .ecb
            return some .ecb
        | some modeClass =>
            match ivNonce with
            | none => .error (invalidField "IV/nonce is required.")
            | some ivNonce => do
                let mode :=
                  modeClass.mode ivNonce authTag (authTag.getD []).length
                package.newMode mode
                return some mode

def unpaddedText (algorithm : CipherAlgorithm) (plainText : Bytes)
    (cipherMode : Option BlockCipherMode)
    (paddingMethod : Option PaddingMethod) : Except PyError Bytes :=
  if isPadded cipherMode then
    handleSymmetricPadding package algorithm (some plainText) paddingMethod true
  else .ok plainText

def decryptSymmetric (decryptionAlgorithm : CryptographicAlgorithm)
    (decryptionKey : Bytes) (cipherText : Option Bytes)
    (cipherMode : Option BlockCipherMode) (paddingMethod : Option PaddingMethod)
    (ivNonce authAdditionalData authTag : Option Bytes) :
    Except PyError Bytes := do
  let algorithm ← symmetricAlgorithm decryptionAlgorithm
    (invalidField
      ("Decryption algorithm '" ++ algorithmText decryptionAlgorithm ++
        "' is not a supported symmetric decryption algorithm."))
  setKey package algorithm decryptionKey
    (cryptographicFailure
      "Invalid key bytes for the specified decryption algorithm.")
  refuseWhen (authAdditionalData.isSome && !isGcmMode cipherMode)
    (invalidField "Additional data is supported in GCM mode only.")
  refuseWhen (isGcmMode cipherMode && authTag.isNone)
    (invalidField "Authenticated tag must be provided in GCM mode.")
  let mode ← decryptionMode package decryptionAlgorithm cipherMode ivNonce
    authTag
  refuseWhen (authAdditionalData.isSome && !authenticates mode)
    (.python .attributeError)
  let data ← contextBytes cipherText
  let plainText ←
    package.decrypt algorithm decryptionKey mode authAdditionalData data
  unpaddedText package algorithm plainText cipherMode paddingMethod

end Decryption

section Asymmetric

/-- The padding of RSA; `operation` is named in the refusals. -/
def asymmetricPadding (operation : String) (paddingMethod : Option PaddingMethod)
    (hashingAlgorithm : Option HashingAlgorithm) :
    Except PyError AsymmetricPadding :=
  match paddingMethod with
  | some .oaep =>
      match hashingAlgorithm.bind encryptionHashAlgorithms with
      | some hash => .ok (.oaep hash hash)
      | none =>
          .error (invalidField
            ("The hashing algorithm '" ++
              memberText "HashingAlgorithm"
                (hashingAlgorithm.map HashingAlgorithm.name) ++
              "' is not supported for asymmetric " ++ operation ++ "."))
  | some .pkcs1v15 => .ok .pkcs1v15
  | _ =>
      .error (invalidField
        ("The padding method '" ++
          memberText "PaddingMethod" (paddingMethod.map PaddingMethod.name) ++
          "' is not supported for asymmetric " ++ operation ++ "."))

def encryptAsymmetric (encryptionKey : Bytes) (plainText : Option Bytes)
    (paddingMethod : Option PaddingMethod)
    (hashingAlgorithm : Option HashingAlgorithm) :
    Except PyError EncryptionResult := do
  let padding ← asymmetricPadding "encryption" paddingMethod hashingAlgorithm
  match package.loadDerPublicKey encryptionKey <|>
      package.loadPemPublicKey encryptionKey with
  | some publicKey =>
      let cipherText ← package.encryptAsymmetric publicKey
        (← contextBytes plainText) padding
      return { cipherText }
  | none =>
      throw (cryptographicFailure "The public key bytes could not be loaded.")

def decryptAsymmetric (decryptionKey : Bytes) (cipherText : Option Bytes)
    (paddingMethod : Option PaddingMethod)
    (hashingAlgorithm : Option HashingAlgorithm) : Except PyError Bytes := do
  let padding ← asymmetricPadding "decryption" paddingMethod hashingAlgorithm
  match package.loadDerPrivateKey decryptionKey <|>
      package.loadPemPrivateKey decryptionKey with
  | some privateKey =>
      package.decryptAsymmetric privateKey (← contextBytes cipherText) padding
  | none =>
      throw (cryptographicFailure "The private key bytes could not be loaded.")

end Asymmetric

def encrypt (encryptionAlgorithm : Option CryptographicAlgorithm)
    (encryptionKey : Bytes) (plainText : Option Bytes)
    (cipherMode : Option BlockCipherMode) (paddingMethod : Option PaddingMethod)
    (ivNonce : Option Bytes) (hashingAlgorithm : Option HashingAlgorithm)
    (authAdditionalData : Option Bytes) (authTagLength : Option Int) :
    Except PyError EncryptionResult :=
  match encryptionAlgorithm with
  | none => .error (invalidField "Encryption algorithm is required.")
  | some algorithm =>
      if algorithm = .rsa then
        encryptAsymmetric package encryptionKey plainText paddingMethod
          hashingAlgorithm
      else
        encryptSymmetric package algorithm encryptionKey plainText cipherMode
          paddingMethod ivNonce authAdditionalData authTagLength

def decrypt (decryptionAlgorithm : Option CryptographicAlgorithm)
    (decryptionKey : Bytes) (cipherText : Option Bytes)
    (cipherMode : Option BlockCipherMode) (paddingMethod : Option PaddingMethod)
    (ivNonce : Option Bytes) (hashingAlgorithm : Option HashingAlgorithm)
    (authAdditionalData authTag : Option Bytes) : Except PyError Bytes :=
  match decryptionAlgorithm with
  | none => .error (invalidField "Decryption algorithm is required.")
  | some algorithm =>
      if algorithm = .rsa then
        decryptAsymmetric package decryptionKey cipherText paddingMethod
          hashingAlgorithm
      else
        decryptSymmetric package algorithm decryptionKey cipherText cipherMode
          paddingMethod ivNonce authAdditionalData authTag

end PyKMIP
