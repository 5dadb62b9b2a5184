import PyKMIP.Attributes
import PyKMIP.Exceptions

/-!
# The cryptography package

What the cryptographic back end of the server calls of the package, as
parameters: the package decides which keys, modes and paddings it accepts, and
what its functions return.
-/

namespace PyKMIP

/-- The classes of hash functions. -/
inductive HashFunction where
  | md5 | sha1 | sha224 | sha256 | sha384 | sha512
deriving DecidableEq, Repr

/-- The classes of symmetric algorithms. -/
inductive CipherAlgorithm where
  | tripleDes | aes | blowfish | camellia | cast5 | idea | arc4
deriving DecidableEq, Repr

/-- The class attribute `block_size`, in bits.  A stream cipher has none. -/
def CipherAlgorithm.blockSize : CipherAlgorithm → Option Nat
  | .aes | .camellia => some 128
  | .tripleDes | .blowfish | .cast5 | .idea => some 64
  | .arc4 => none

/-- The modes of operation with their parameters. -/
inductive CipherMode where
  | cbc (initializationVector : Bytes)
  | ecb
  | ofb (initializationVector : Bytes)
  | cfb (initializationVector : Bytes)
  | ctr (nonce : Bytes)
  | gcm (initializationVector : Bytes) (tag : Option Bytes) (minTagLength : Int)
deriving DecidableEq, Repr

/-- Whether the context of the mode authenticates, and has a tag. -/
def CipherMode.authenticates : CipherMode → Bool
  | .gcm .. => true
  | _ => false

inductive SymmetricPadding where
  | ansiX923 | pkcs7
deriving DecidableEq, Repr

/-- The paddings of RSA; that of PSS has the largest salt. -/
inductive AsymmetricPadding where
  | oaep (mgf algorithm : HashFunction)
  | pkcs1v15
  | pss (mgf : HashFunction)
deriving DecidableEq, Repr

/-- How a verification ends: without an exception, with `InvalidSignature`, or
with another exception. -/
inductive Verification where
  | accepted | invalidSignature | failed
deriving DecidableEq, Repr

structure Cryptography where
  PrivateKey : Type
  PublicKey : Type
  urandom : Nat → Bytes
  /-- The constructor of an algorithm with a key. -/
  newAlgorithm : CipherAlgorithm → Bytes → Except PyError Unit
  /-- The constructor of a mode. -/
  newMode : CipherMode → Except PyError Unit
  /-- A context that encrypts: algorithm, key, mode, additional data and plain
  text.  The tag is that of a mode that authenticates. -/
  encrypt : CipherAlgorithm → Bytes → Option CipherMode → Option Bytes →
    Bytes → Except PyError (Bytes × Bytes)
  /-- A context that decrypts: algorithm, key, mode, additional data and cipher
  text. -/
  decrypt : CipherAlgorithm → Bytes → Option CipherMode → Option Bytes →
    Bytes → Except PyError Bytes
  /-- Padding for blocks of some bits. -/
  pad : SymmetricPadding → Nat → Bytes → Except PyError Bytes
  unpad : SymmetricPadding → Nat → Bytes → Except PyError Bytes
  loadPemPrivateKey : Bytes → Option PrivateKey
  loadDerPrivateKey : Bytes → Option PrivateKey
  loadPemPublicKey : Bytes → Option PublicKey
  loadDerPublicKey : Bytes → Option PublicKey
  /-- Sign data. -/
  sign : PrivateKey → Bytes → AsymmetricPadding → HashFunction →
    Except PyError Bytes
  /-- Verify a signature of data. -/
  verify : PublicKey → Bytes → Bytes → AsymmetricPadding → HashFunction →
    Verification
  encryptAsymmetric : PublicKey → Bytes → AsymmetricPadding →
    Except PyError Bytes
  decryptAsymmetric : PrivateKey → Bytes → AsymmetricPadding →
    Except PyError Bytes
  /-- Hash function, length, salt, info and key material. -/
  hkdf : HashFunction → Int → Option Bytes → Option Bytes → Bytes →
    Except PyError Bytes
  hash : HashFunction → Bytes → Bytes
  /-- Hash function, length, salt, iterations and key material. -/
  pbkdf2 : HashFunction → Int → Bytes → Int → Bytes → Except PyError Bytes
  /-- Hash function, length, fixed data and key material, in counter mode. -/
  kbkdf : HashFunction → Int → Option Bytes → Bytes → Except PyError Bytes
  /-- Wrapping key and key to wrap; a failure is told by its text. -/
  aesKeyWrap : Bytes → Bytes → Except String Bytes
  aesKeyUnwrap : Bytes → Bytes → Except String Bytes

/-- A package that accepts nothing. -/
def Cryptography.refusing : Cryptography where
  PrivateKey := Unit
  PublicKey := Unit
  urandom _ := []
  newAlgorithm _ _ := .error (.python .valueError)
  newMode _ := .error (.python .valueError)
  encrypt _ _ _ _ _ := .error (.python .unsupportedAlgorithm)
  decrypt _ _ _ _ _ := .error (.python .unsupportedAlgorithm)
  pad _ _ _ := .error (.python .valueError)
  unpad _ _ _ := .error (.python .valueError)
  loadPemPrivateKey _ := none
  loadDerPrivateKey _ := none
  loadPemPublicKey _ := none
  loadDerPublicKey _ := none
  sign _ _ _ _ := .error (.python .valueError)
  verify _ _ _ _ _ := .failed
  encryptAsymmetric _ _ _ := .error (.python .valueError)
  decryptAsymmetric _ _ _ := .error (.python .valueError)
  hkdf _ _ _ _ _ := .error (.python .valueError)
  hash _ _ := []
  pbkdf2 _ _ _ _ _ := .error (.python .valueError)
  kbkdf _ _ _ _ := .error (.python .valueError)
  aesKeyWrap _ _ := .error ""
  aesKeyUnwrap _ _ := .error ""

section Names

def CryptographicAlgorithm.name (algorithm : CryptographicAlgorithm) : String :=
  ["DES", "TRIPLE_DES", "AES", "RSA", "DSA", "ECDSA", "HMAC_SHA1",
    "HMAC_SHA224", "HMAC_SHA256", "HMAC_SHA384", "HMAC_SHA512", "HMAC_MD5",
    "DH", "ECDH", "ECMQV", "BLOWFISH", "CAMELLIA", "CAST5", "IDEA", "MARS",
    "RC2", "RC4", "RC5", "SKIPJACK", "TWOFISH", "EC", "ONE_TIME_PAD",
    "CHACHA20", "POLY1305", "CHACHA20_POLY1305", "SHA3_224", "SHA3_256",
    "SHA3_384", "SHA3_512", "HMAC_SHA3_224", "HMAC_SHA3_256", "HMAC_SHA3_384",
    "HMAC_SHA3_512", "SHAKE_128", "SHAKE_256", "ARIA", "SEED", "SM2", "SM3",
    "SM4", "GOST_R_34_10_2012", "GOST_R_34_11_2012", "GOST_R_34_13_2015",
    "GOST_28147_89", "XMSS", "SPHINCS_256", "MCELIECE", "MCELIECE_6960119",
    "MCELIECE_8192128", "ED25519", "ED448"].getD algorithm.ctorIdx ""

def BlockCipherMode.name (mode : BlockCipherMode) : String :=
  ["CBC", "ECB", "PCBC", "CFB", "OFB", "CTR", "CMAC", "CCM", "GCM", "CBC_MAC",
    "XTS", "AES_KEY_WRAP_PADDING", "NIST_KEY_WRAP", "X9_102_AESKW",
    "X9_102_TDKW", "X9_102_AKW1", "X9_102_AKW2", "AEAD"].getD mode.ctorIdx ""

def PaddingMethod.name (method : PaddingMethod) : String :=
  ["NONE", "OAEP", "PKCS5", "SSL3", "ZEROS", "ANSI_X923", "ISO_10126",
    "PKCS1v15", "X931", "PSS"].getD method.ctorIdx ""

def HashingAlgorithm.name (algorithm : HashingAlgorithm) : String :=
  ["MD2", "MD4", "MD5", "SHA_1", "SHA_224", "SHA_256", "SHA_384", "SHA_512",
    "RIPEMD_160", "TIGER", "WHIRLPOOL", "SHA_512_224", "SHA_512_256",
    "SHA3_224", "SHA3_256", "SHA3_384", "SHA3_512"].getD algorithm.ctorIdx ""

def DerivationMethod.name (method : DerivationMethod) : String :=
  ["PBKDF2", "HASH", "HMAC", "ENCRYPT", "NIST800_108_C", "NIST800_108_F",
    "NIST800_108_DPI", "ASYMMETRIC_KEY", "AWS_SIGNATURE_VERSION_4",
    "HKDF"].getD method.ctorIdx ""

/-- `str` of a member that may be `None`. -/
def memberText (className : String) : Option String → String
  | some name => className ++ "." ++ name
  | none => "None"

end Names

section Tables

def symmetricKeyAlgorithms : CryptographicAlgorithm → Option CipherAlgorithm
  | .tripleDes => some .tripleDes
  | .aes => some .aes
  | .blowfish => some .blowfish
  | .camellia => some .camellia
  | .cast5 => some .cast5
  | .idea => some .idea
  | .rc4 => some .arc4
  | _ => none

def encryptionHashAlgorithms : HashingAlgorithm → Option HashFunction
  | .md5 => some .md5
  | .sha1 => some .sha1
  | .sha224 => some .sha224
  | .sha256 => some .sha256
  | .sha384 => some .sha384
  | .sha512 => some .sha512
  | _ => none

def symmetricPaddingMethods : PaddingMethod → Option SymmetricPadding
  | .ansiX923 => some .ansiX923
  | .pkcs5 => some .pkcs7
  | _ => none

def digitalSignatureAlgorithms :
    DigitalSignatureAlgorithm → Option (HashFunction × CryptographicAlgorithm)
  | .md5WithRsaEncryption => some (.md5, .rsa)
  | .sha1WithRsaEncryption => some (.sha1, .rsa)
  | .sha224WithRsaEncryption => some (.sha224, .rsa)
  | .sha256WithRsaEncryption => some (.sha256, .rsa)
  | .sha384WithRsaEncryption => some (.sha384, .rsa)
  | .sha512WithRsaEncryption => some (.sha512, .rsa)
  | _ => none

end Tables

end PyKMIP
