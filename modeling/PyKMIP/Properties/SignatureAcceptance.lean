import PyKMIP.Crypto.Signatures
import PyKMIP.Lib.StatefulExcept

/-!
# Which signatures are accepted

A signature is accepted with the parameters that it was made with, unless a
digital signature algorithm was given together with a hash function or an
algorithm that it does not name: signing ignores these, verification refuses
them.
-/

namespace PyKMIP

open StatefulExcept

/-- An RSA key pair in its encodings; the package accepts with the public key
what it has signed with the private key. -/
structure RsaKeyPair (package : Cryptography) where
  signingKey : Bytes
  verifyingKey : Bytes
  privateKey : package.PrivateKey
  publicKey : package.PublicKey
  loadsPrivate : createRsaPrivateKey package signingKey = some privateKey
  loadsPublic : loadPublicKey package verifyingKey = some publicKey
  accepts : ∀ data padding hash signature,
    package.sign privateKey data padding hash = .ok signature →
    package.verify publicKey signature data padding hash = .accepted

section Parameters

variable (digitalSignatureAlgorithm : Option DigitalSignatureAlgorithm)
  (algorithm : Option CryptographicAlgorithm)
  (hashingAlgorithm : Option HashingAlgorithm)

/-- What is given beside a digital signature algorithm is what this names, or
is unknown to the engine. -/
structure Consistent : Prop where
  hash : ∀ hash signing given,
    digitalSignatureAlgorithm.bind digitalSignatureAlgorithms =
      some (hash, signing) →
    hashingAlgorithm.bind encryptionHashAlgorithms = some given → given = hash
  signing : ∀ hash signing given,
    digitalSignatureAlgorithm.bind digitalSignatureAlgorithms =
      some (hash, signing) →
    algorithm = some given → given = signing

end Parameters

section Resolution

variable {algorithm : Option CryptographicAlgorithm}
  {hashingAlgorithm : Option HashingAlgorithm} {hash : HashFunction}

variable {digitalSignatureAlgorithm : Option DigitalSignatureAlgorithm}

/-- The comparisons are passed just by consistent parameters. -/
theorem verifyingAlgorithms_of_named {signing : CryptographicAlgorithm}
    (consistent : Consistent digitalSignatureAlgorithm algorithm hashingAlgorithm)
    (named : digitalSignatureAlgorithm.bind digitalSignatureAlgorithms =
      some (hash, signing)) :
    verifyingAlgorithms algorithm hashingAlgorithm digitalSignatureAlgorithm =
      .ok (some signing, some hash) := by
  unfold verifyingAlgorithms
  simp only [named]
  rw [if_neg, if_neg]
  · rintro ⟨given, other⟩
    obtain ⟨value, rfl⟩ := Option.isSome_iff_exists.mp given
    exact other (congrArg some (consistent.signing hash signing value named rfl))
  · rintro ⟨given, other⟩
    obtain ⟨value, known⟩ := Option.isSome_iff_exists.mp given
    rw [known] at other
    exact other (congrArg some (consistent.hash hash signing value named known))

theorem verifyingAlgorithms_of_inconsistent
    (inconsistent :
      ¬Consistent digitalSignatureAlgorithm algorithm hashingAlgorithm) :
    ∃ message, verifyingAlgorithms algorithm hashingAlgorithm
      digitalSignatureAlgorithm = .error (invalidField message) := by
  cases named : digitalSignatureAlgorithm.bind digitalSignatureAlgorithms with
  | none =>
      refine absurd ⟨fun _ _ _ given => ?_, fun _ _ _ given => ?_⟩ inconsistent
      · rw [named] at given
        cases given
      · rw [named] at given
        cases given
  | some choice =>
      obtain ⟨hash, signing⟩ := choice
      unfold verifyingAlgorithms
      simp only [named]
      split
      · exact ⟨_, rfl⟩
      · rename_i sameHash
        split
        · exact ⟨_, rfl⟩
        · rename_i sameAlgorithm
          refine absurd ⟨?_, ?_⟩ inconsistent
          · intro _ _ given choice known
            rw [named] at choice
            cases choice
            rw [known] at sameHash
            simpa using sameHash
          · rintro _ _ given choice rfl
            rw [named] at choice
            cases choice
            simpa using sameAlgorithm

/-- Consistent parameters select the same hash function and algorithm for the
two operations. -/
theorem verifyingAlgorithms_of_consistent
    (consistent : Consistent digitalSignatureAlgorithm algorithm hashingAlgorithm)
    (resolved : signingAlgorithms digitalSignatureAlgorithm algorithm
      hashingAlgorithm = .ok (some hash, some .rsa)) :
    verifyingAlgorithms algorithm hashingAlgorithm digitalSignatureAlgorithm =
      .ok (some .rsa, some hash) := by
  unfold signingAlgorithms at resolved
  cases digitalSignatureAlgorithm with
  | some signature =>
      cases named : digitalSignatureAlgorithms signature with
      | none => simp [named] at resolved
      | some choice =>
          obtain ⟨namedHash, namedAlgorithm⟩ := choice
          simp only [named, Except.ok.injEq, Prod.mk.injEq,
            Option.some.injEq] at resolved
          obtain ⟨rfl, rfl⟩ := resolved
          exact verifyingAlgorithms_of_named consistent named
  | none =>
      cases algorithm with
      | none => cases resolved
      | some signing =>
          cases hashingAlgorithm with
          | none => cases resolved
          | some hashing =>
              simp only [Except.ok.injEq, Prod.mk.injEq] at resolved
              obtain ⟨known, same⟩ := resolved
              rw [← same, ← known]
              rfl

end Resolution

section Signatures

variable {package : Cryptography} {pair : RsaKeyPair package}
  {digitalSignatureAlgorithm : Option DigitalSignatureAlgorithm}
  {algorithm : Option CryptographicAlgorithm}
  {hashingAlgorithm : Option HashingAlgorithm}
  {padding : Option PaddingMethod} {data signature : Bytes}

/-- What a signature was made with. -/
theorem sign_eq_ok
    (signed : sign package digitalSignatureAlgorithm algorithm hashingAlgorithm
      padding pair.signingKey data = .ok signature) :
    ∃ hash method paddingMethod,
      signingAlgorithms digitalSignatureAlgorithm algorithm hashingAlgorithm =
        .ok (some hash, some .rsa) ∧
      padding = some method ∧
      signaturePadding method (some hash) = .ok paddingMethod ∧
      package.sign pair.privateKey data paddingMethod hash = .ok signature := by
  unfold sign at signed
  obtain ⟨⟨hashAlg, cryptoAlg⟩, resolved, signed⟩ := except_bind_ok_iff.mp signed
  simp only [pair.loadsPrivate] at signed
  by_cases rsa : cryptoAlg = some .rsa
  · subst rsa
    simp only [ne_eq, not_true_eq_false, if_false, pure_bind] at signed
    cases padding with
    | none => cases signed
    | some method =>
        simp only at signed
        obtain ⟨paddingMethod, pads, signed⟩ := except_bind_ok_iff.mp signed
        obtain ⟨hash, called, signed⟩ := except_bind_ok_iff.mp signed
        cases hashAlg with
        | none => cases called
        | some hashAlg =>
            cases called
            exact ⟨hash, method, paddingMethod, resolved, rfl, pads, signed⟩
  · simp only [ne_eq, rsa, not_false_eq_true, if_true] at signed
    cases signed

theorem verificationPadding_of_signaturePadding
    {method : PaddingMethod} {hash : HashFunction}
    {paddingMethod : AsymmetricPadding}
    (pads : signaturePadding method (some hash) = .ok paddingMethod) :
    verificationPadding (some method) (some hash) = .ok paddingMethod := by
  cases method <;> simp_all [signaturePadding, verificationPadding, newHash]

end Signatures

theorem verifySignature_of_sign
    {package : Cryptography} (pair : RsaKeyPair package)
    (digitalSignatureAlgorithm : Option DigitalSignatureAlgorithm)
    (algorithm : Option CryptographicAlgorithm)
    (hashingAlgorithm : Option HashingAlgorithm)
    (padding : Option PaddingMethod) (data signature : Bytes)
    (signed : sign package digitalSignatureAlgorithm algorithm hashingAlgorithm
      padding pair.signingKey data = .ok signature) :
    (Consistent digitalSignatureAlgorithm algorithm hashingAlgorithm →
      verifySignature package pair.verifyingKey data signature padding algorithm
        hashingAlgorithm digitalSignatureAlgorithm = .ok true) ∧
    (¬Consistent digitalSignatureAlgorithm algorithm hashingAlgorithm →
      ∃ message, verifySignature package pair.verifyingKey data signature padding
        algorithm hashingAlgorithm digitalSignatureAlgorithm =
          .error (invalidField message)) := by
  obtain ⟨hash, method, paddingMethod, resolved, rfl, pads, made⟩ :=
    sign_eq_ok signed
  have accepted := pair.accepts data paddingMethod hash signature made
  have verificationPads := verificationPadding_of_signaturePadding pads
  constructor
  · intro consistent
    have same := verifyingAlgorithms_of_consistent consistent resolved
    unfold verifySignature
    rw [same]
    simp only [bind, Except.bind, ne_eq, not_true_eq_false, if_false, pure,
      Except.pure, pair.loadsPublic, verificationPads, accepted]
  · intro inconsistent
    obtain ⟨message, refused⟩ := verifyingAlgorithms_of_inconsistent inconsistent
    refine ⟨message, ?_⟩
    unfold verifySignature
    rw [refused]
    rfl

section Example

/-- A package that knows one key pair, and one signature made with it. -/
def recordedSignature : Cryptography :=
  { Cryptography.refusing with
    loadDerPrivateKey := fun keyBytes =>
      if keyBytes = [0x30, 0x01] then some () else none
    loadDerPublicKey := fun keyBytes =>
      if keyBytes = [0x30, 0x02] then some () else none
    sign := fun _ data padding hash =>
      if data = [0x61] ∧ padding = .pkcs1v15 ∧ hash = .sha256
      then .ok [0x5a, 0x0b] else .error (.python .valueError)
    verify := fun _ signature data padding hash =>
      if data = [0x61] ∧ padding = .pkcs1v15 ∧ hash = .sha256 ∧
        signature = [0x5a, 0x0b] then .accepted else .invalidSignature }

def recordedPair : RsaKeyPair recordedSignature where
  signingKey := [0x30, 0x01]
  verifyingKey := [0x30, 0x02]
  privateKey := ()
  publicKey := ()
  loadsPrivate := rfl
  loadsPublic := rfl
  accepts data padding hash signature made := by
    simp only [recordedSignature] at made ⊢
    split at made
    · rename_i known
      cases made
      rw [if_pos ⟨known.1, known.2.1, known.2.2, rfl⟩]
    · cases made

theorem verifySignature_of_sign_recorded :
    verifySignature recordedSignature recordedPair.verifyingKey [0x61]
      [0x5a, 0x0b] (some .pkcs1v15) none none
      (some .sha256WithRsaEncryption) = .ok true := by
  have signed : sign recordedSignature (some .sha256WithRsaEncryption) none
      none (some .pkcs1v15) recordedPair.signingKey [0x61] =
      .ok [0x5a, 0x0b] := rfl
  have consistent : Consistent (some .sha256WithRsaEncryption) none none := by
    constructor
    · intro hash signing given named known
      cases known
    · intro hash signing given named known
      cases known
  exact (verifySignature_of_sign recordedPair _ none none _ _ _ signed).1
    consistent

/-- Beside the digital signature algorithm another hash function is given. -/
theorem contradictory_signature_is_refused :
    sign recordedSignature (some .sha256WithRsaEncryption) none (some .sha1)
        (some .pkcs1v15) recordedPair.signingKey [0x61] = .ok [0x5a, 0x0b] ∧
      verifySignature recordedSignature recordedPair.verifyingKey [0x61]
        [0x5a, 0x0b] (some .pkcs1v15) none (some .sha1)
        (some .sha256WithRsaEncryption) ≠ .ok true := by
  refine ⟨rfl, ?_⟩
  intro accepted
  cases accepted

end Example

end PyKMIP
