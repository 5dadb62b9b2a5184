import PyKMIP.Crypto.Package

/-!
# Signatures

`sign` takes hash and algorithm from the digital signature algorithm and looks
at the other two only without one; `verifySignature` lets them be given as well
and compares.
-/

namespace PyKMIP

variable (package : Cryptography)

def createRsaPrivateKey (keyBytes : Bytes) : Option package.PrivateKey :=
  package.loadPemPrivateKey keyBytes <|> package.loadDerPrivateKey keyBytes

/-- The hash function and the algorithm to sign with; either may turn out to be
unknown. -/
def signingAlgorithms
    (digitalSignatureAlgorithm : Option DigitalSignatureAlgorithm)
    (cryptoAlg : Option CryptographicAlgorithm)
    (hashAlgorithm : Option HashingAlgorithm) :
    Except PyError (Option HashFunction × Option CryptographicAlgorithm) :=
  match digitalSignatureAlgorithm, cryptoAlg, hashAlgorithm with
  | some algorithm, _, _ =>
      match digitalSignatureAlgorithms algorithm with
      | some (hash, signing) => .ok (some hash, some signing)
      | none => .ok (none, none)
  | none, some signing, some hash =>
      .ok (encryptionHashAlgorithms hash, some signing)
  | none, _, _ =>
      .error (invalidField
        ("For signing, either a digital signature algorithm or a hash" ++
          " algorithm and a cryptographic algorithm must be specified."))

/-- `hash_alg()`; `None` cannot be called. -/
def newHash : Option HashFunction → Except PyError HashFunction
  | some hash => .ok hash
  | none => .error (.python .typeError)

/-- The padding of a signature. -/
def signaturePadding (padding : PaddingMethod) (hash : Option HashFunction) :
    Except PyError AsymmetricPadding :=
  match padding with
  | .pss => AsymmetricPadding.pss <$> newHash hash
  | .pkcs1v15 => .ok .pkcs1v15
  | _ =>
      .error (invalidField
        ("Padding method " ++ "'" ++ memberText "PaddingMethod" padding.name ++
          "' is not a supported signature padding method."))

def sign (digitalSignatureAlgorithm : Option DigitalSignatureAlgorithm)
    (cryptoAlg : Option CryptographicAlgorithm)
    (hashAlgorithm : Option HashingAlgorithm)
    (padding : Option PaddingMethod) (signingKey data : Bytes) :
    Except PyError Bytes := do
  let (hashAlg, cryptoAlg) ←
    signingAlgorithms digitalSignatureAlgorithm cryptoAlg hashAlgorithm
  if cryptoAlg ≠ some .rsa then
    throw (invalidField "For signing, an RSA key must be used.")
  let key ←
    match createRsaPrivateKey package signingKey with
    | some key => pure key
    | none =>
        throw (invalidField "Unable to deserialize key bytes, unknown format.")
  match padding with
  | none =>
      throw (invalidField "For signing, a padding method must be specified.")
  | some padding =>
      let paddingMethod ← signaturePadding padding hashAlg
      let hash ← newHash hashAlg
      package.sign key data paddingMethod hash

/-- The algorithm and the hash function to verify with. -/
def verifyingAlgorithms
    (signingAlgorithm : Option CryptographicAlgorithm)
    (hashingAlgorithm : Option HashingAlgorithm)
    (digitalSignatureAlgorithm : Option DigitalSignatureAlgorithm) :
    Except PyError (Option CryptographicAlgorithm × Option HashFunction) :=
  let hashAlgorithm := hashingAlgorithm.bind encryptionHashAlgorithms
  match digitalSignatureAlgorithm.bind digitalSignatureAlgorithms with
  | none => .ok (signingAlgorithm, hashAlgorithm)
  | some (dsaHashAlgorithm, dsaSigningAlgorithm) =>
      if hashAlgorithm.isSome ∧ hashAlgorithm ≠ some dsaHashAlgorithm then
        .error (invalidField
          ("The hashing algorithm does not match the digital " ++
            "signature algorithm."))
      else if signingAlgorithm.isSome ∧
          signingAlgorithm ≠ some dsaSigningAlgorithm then
        .error (invalidField
          ("The signing algorithm does not match the digital " ++
            "signature algorithm."))
      else .ok (some dsaSigningAlgorithm, some dsaHashAlgorithm)

def verificationPadding (paddingMethod : Option PaddingMethod)
    (hashAlgorithm : Option HashFunction) : Except PyError AsymmetricPadding :=
  match paddingMethod with
  | some .pss =>
      match hashAlgorithm with
      | some hash => .ok (.pss hash)
      | none =>
          .error (invalidField
            "A hashing algorithm must be specified for PSS padding.")
  | some .pkcs1v15 => .ok .pkcs1v15
  | _ =>
      .error (invalidField
        ("The padding method '" ++
          memberText "PaddingMethod" (paddingMethod.map PaddingMethod.name) ++
          "' is not supported for signature verification."))

def loadPublicKey (keyBytes : Bytes) : Option package.PublicKey :=
  package.loadDerPublicKey keyBytes <|> package.loadPemPublicKey keyBytes

def verifySignature (signingKey message signature : Bytes)
    (paddingMethod : Option PaddingMethod)
    (signingAlgorithm : Option CryptographicAlgorithm)
    (hashingAlgorithm : Option HashingAlgorithm)
    (digitalSignatureAlgorithm : Option DigitalSignatureAlgorithm) :
    Except PyError Bool := do
  let (signingAlgorithm, hashAlgorithm) ← verifyingAlgorithms signingAlgorithm
    hashingAlgorithm digitalSignatureAlgorithm
  if signingAlgorithm ≠ some .rsa then
    throw (invalidField
      ("The signing algorithm '" ++
        memberText "CryptographicAlgorithm"
          (signingAlgorithm.map CryptographicAlgorithm.name) ++
        "' is not supported for signature verification."))
  let padding ← verificationPadding paddingMethod hashAlgorithm
  let publicKey ←
    match loadPublicKey package signingKey with
    | some publicKey => pure publicKey
    | none =>
        throw (cryptographicFailure
          "The signing key bytes could not be loaded.")
  let failure := cryptographicFailure
    "The signature verification process failed."
  match hashAlgorithm with
  | none => throw failure
  | some hash =>
      match package.verify publicKey signature message padding hash with
      | .accepted => return true
      | .invalidSignature => return false
      | .failed => throw failure

end PyKMIP
