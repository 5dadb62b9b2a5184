import PyKMIP.Crypto.Package
import PyKMIP.Objects

/-!
# Key wrapping

Keys are encrypted with the key wrapping algorithm of NIST, and with no other.
-/

namespace PyKMIP

variable (package : Cryptography)

def wrapKey (keyMaterial : Bytes) (wrappingMethod : WrappingMethod)
    (keyWrapAlgorithm : Option BlockCipherMode) (encryptionKey : Bytes) :
    Except PyError Bytes :=
  if wrappingMethod = .encrypt then
    if keyWrapAlgorithm = some .nistKeyWrap then
      match package.aesKeyWrap encryptionKey keyMaterial with
      | .ok wrappedKey => .ok wrappedKey
      | .error text => .error (cryptographicFailure text)
    else
      .error (invalidField
        ("Encryption algorithm '" ++
          memberText "BlockCipherMode"
            (keyWrapAlgorithm.map BlockCipherMode.name) ++
          "' is not a supported key wrapping algorithm."))
  else
    .error (invalidField
      ("Wrapping method '" ++
        memberText "WrappingMethod" wrappingMethod.name ++
        "' is not a supported key wrapping method."))

/-- What the package promises: unwrapping undoes wrapping. -/
def Cryptography.Unwraps : Prop :=
  ∀ encryptionKey keyMaterial wrappedKey,
    package.aesKeyWrap encryptionKey keyMaterial = .ok wrappedKey →
    package.aesKeyUnwrap encryptionKey wrappedKey = .ok keyMaterial

theorem aesKeyWrap_of_wrapKey
    {package : Cryptography} {keyMaterial encryptionKey wrappedKey : Bytes}
    {wrappingMethod : WrappingMethod} {keyWrapAlgorithm : Option BlockCipherMode}
    (wrapped : wrapKey package keyMaterial wrappingMethod keyWrapAlgorithm
      encryptionKey = .ok wrappedKey) :
    package.aesKeyWrap encryptionKey keyMaterial = .ok wrappedKey := by
  unfold wrapKey at wrapped
  split at wrapped
  · split at wrapped
    · split at wrapped
      · cases wrapped
        assumption
      · cases wrapped
    · cases wrapped
  · cases wrapped

end PyKMIP
