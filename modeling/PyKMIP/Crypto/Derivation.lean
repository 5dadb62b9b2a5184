import PyKMIP.Crypto.SymmetricCiphers

/-!
# Key derivation

Four derivation functions and encryption.  Hashing and encryption do not look
at the length that is asked for.
-/

namespace PyKMIP

variable (package : Cryptography)

def derivationHash (hashAlgorithm : Option HashingAlgorithm) :
    Except PyError HashFunction :=
  match hashAlgorithm with
  | none => .error (invalidField "Hash algorithm is required.")
  | some algorithm =>
      match encryptionHashAlgorithms algorithm with
      | some hash => .ok hash
      | none =>
          .error (invalidField
            ("Hash algorithm '" ++
              memberText "HashingAlgorithm" algorithm.name ++
              "' is not a supported hashing algorithm."))

def deriveKey (derivationMethod : DerivationMethod) (derivationLength : Int)
    (derivationData : Option Bytes) (keyMaterial : Bytes)
    (parameters : CryptographicParameters) (salt : Option Bytes)
    (iterationCount : Option Int) (ivNonce : Bytes) : Except PyError Bytes :=
  if derivationMethod = .encrypt then
    EncryptionResult.cipherText <$>
      encrypt package parameters.cryptographicAlgorithm keyMaterial
        derivationData parameters.blockCipherMode parameters.paddingMethod
        (some ivNonce) none none none
  else do
    let hash ← derivationHash parameters.hashingAlgorithm
    match derivationMethod with
    | .hmac => package.hkdf hash derivationLength salt derivationData keyMaterial
    | .hash =>
        match derivationData with
        | some _ =>
            throw (invalidField
              ("For hash-based key derivation, specify only " ++
                "derivation data or key material, not both."))
        | none => return package.hash hash keyMaterial
    | .pbkdf2 =>
        match salt, iterationCount with
        | none, _ =>
            throw (invalidField
              "For PBKDF2 key derivation, salt must be specified.")
        | some _, none =>
            throw (invalidField
              ("For PBKDF2 key derivation, iteration count must be " ++
                "specified."))
        | some salt, some iterationCount =>
            package.pbkdf2 hash derivationLength salt iterationCount keyMaterial
    | .nist800108C =>
        package.kbkdf hash derivationLength derivationData keyMaterial
    | method =>
        throw (invalidField
          ("Derivation method '" ++
            memberText "DerivationMethod" method.name ++
            "' is not a supported key derivation method."))

/-- The functions that the methods stand for, and their outputs. -/
inductive DerivationOutput (package : Cryptography) (length : Int)
    (data : Option Bytes) (keyMaterial : Bytes)
    (parameters : CryptographicParameters) (salt : Option Bytes)
    (iterationCount : Option Int) (ivNonce : Bytes) :
    DerivationMethod → Bytes → Prop where
  | encrypt {result : EncryptionResult} :
      PyKMIP.encrypt package parameters.cryptographicAlgorithm keyMaterial data
        parameters.blockCipherMode parameters.paddingMethod (some ivNonce) none
        none none = .ok result →
      DerivationOutput package length data keyMaterial parameters salt
        iterationCount ivNonce .encrypt result.cipherText
  | hmac {hash : HashFunction} {output : Bytes} :
      derivationHash parameters.hashingAlgorithm = .ok hash →
      package.hkdf hash length salt data keyMaterial = .ok output →
      DerivationOutput package length data keyMaterial parameters salt
        iterationCount ivNonce .hmac output
  | hash {hash : HashFunction} :
      derivationHash parameters.hashingAlgorithm = .ok hash →
      data = none →
      DerivationOutput package length data keyMaterial parameters salt
        iterationCount ivNonce .hash (package.hash hash keyMaterial)
  | pbkdf2 {hash : HashFunction} {salted : Bytes} {count : Int}
      {output : Bytes} :
      derivationHash parameters.hashingAlgorithm = .ok hash →
      salt = some salted → iterationCount = some count →
      package.pbkdf2 hash length salted count keyMaterial = .ok output →
      DerivationOutput package length data keyMaterial parameters salt
        iterationCount ivNonce .pbkdf2 output
  | counter {hash : HashFunction} {output : Bytes} :
      derivationHash parameters.hashingAlgorithm = .ok hash →
      package.kbkdf hash length data keyMaterial = .ok output →
      DerivationOutput package length data keyMaterial parameters salt
        iterationCount ivNonce .nist800108C output

/-- What is derived is the output of the function, as it is. -/
theorem deriveKey_output {method : DerivationMethod} {length : Int}
    {data : Option Bytes} {keyMaterial : Bytes}
    {parameters : CryptographicParameters} {salt : Option Bytes}
    {iterationCount : Option Int} {ivNonce output : Bytes}
    (derived : deriveKey package method length data keyMaterial parameters salt
      iterationCount ivNonce = .ok output) :
    DerivationOutput package length data keyMaterial parameters salt
      iterationCount ivNonce method output := by
  unfold deriveKey at derived
  by_cases encrypts : method = .encrypt
  · subst encrypts
    rw [if_pos rfl] at derived
    cases result : encrypt package parameters.cryptographicAlgorithm keyMaterial
        data parameters.blockCipherMode parameters.paddingMethod (some ivNonce)
        none none none with
    | error exception =>
        rw [result] at derived
        cases derived
    | ok encrypted =>
        rw [result] at derived
        cases derived
        exact .encrypt result
  · rw [if_neg encrypts] at derived
    obtain ⟨hash, hashes, derived⟩ :=
      StatefulExcept.except_bind_ok_iff.mp derived
    cases method with
    | encrypt => exact absurd rfl encrypts
    | hmac => exact .hmac hashes derived
    | nist800108C => exact .counter hashes derived
    | hash =>
        cases data with
        | some given => cases derived
        | none =>
            cases derived
            exact .hash hashes rfl
    | pbkdf2 =>
        cases salt with
        | none => cases derived
        | some salted =>
            cases iterationCount with
            | none => cases derived
            | some count => exact .pbkdf2 hashes rfl rfl derived
    | _ => cases derived

end PyKMIP
