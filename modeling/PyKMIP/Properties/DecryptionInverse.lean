import PyKMIP.Crypto.SymmetricCiphers

/-!
# Decryption undoes encryption

For the same parameters the two routines choose the same mode and padding.
What cannot be undone is an encryption in GCM mode whose tag is cut to less
than the four bytes that the package demands of a tag.
-/

namespace PyKMIP

open StatefulExcept

/-- What the package promises: contexts with the same key and parameters are
inverse to each other, tags of GCM have sixteen bytes of which four are enough,
and unpadding undoes padding. -/
structure Cryptography.Inverts (package : Cryptography) : Prop where
  decrypts : ∀ algorithm key mode additional plainText cipherText tag,
    authenticates mode = false →
    package.encrypt algorithm key mode additional plainText =
      .ok (cipherText, tag) →
    package.decrypt algorithm key mode additional cipherText = .ok plainText
  authenticates : ∀ algorithm key nonce minTagLength additional plainText
      cipherText tag count,
    package.encrypt algorithm key (some (.gcm nonce none minTagLength))
      additional plainText = .ok (cipherText, tag) →
    4 ≤ (tag.take count).length →
    package.decrypt algorithm key
      (some (.gcm nonce (some (tag.take count)) (tag.take count).length))
      additional cipherText = .ok plainText
  tagLength : ∀ algorithm key nonce minTagLength additional plainText
      cipherText tag,
    package.encrypt algorithm key (some (.gcm nonce none minTagLength))
      additional plainText = .ok (cipherText, tag) → tag.length = 16
  acceptsTag : ∀ nonce minTagLength tag,
    package.newMode (.gcm nonce none minTagLength) = .ok () →
    4 ≤ tag.length →
    package.newMode (.gcm nonce (some tag) tag.length) = .ok ()
  refusesTag : ∀ nonce tag, tag.length < 4 →
    package.newMode (.gcm nonce (some tag) tag.length) ≠ .ok ()
  unpads : ∀ padding blockSize plainText padded,
    package.pad padding blockSize plainText = .ok padded →
    package.unpad padding blockSize padded = .ok plainText

section Tags

/-- The lengths of a tag that leave at least four of its sixteen bytes. -/
def LeavesTag (length : Int) : Prop := 4 ≤ length ∨ -12 ≤ length ∧ length < 0

theorem takeTo_eq_take (length : Int) (tag : Bytes) :
    ∃ count, takeTo length tag = tag.take count := by
  unfold takeTo
  split
  · exact ⟨_, rfl⟩
  · exact ⟨_, rfl⟩

theorem four_le_length_takeTo {tag : Bytes} (whole : tag.length = 16)
    (length : Int) : 4 ≤ (takeTo length tag).length ↔ LeavesTag length := by
  unfold takeTo LeavesTag
  split
  · rw [List.length_take]
    omega
  · rw [List.length_take]
    omega

end Tags

section Modes

variable {package : Cryptography} {algorithm : CryptographicAlgorithm}
  {cipher : CipherAlgorithm} {cipherMode : Option BlockCipherMode}
  {ivNonce : Option Bytes} {authTagLength : Int} {mode : Option CipherMode}
  {generated : Option Bytes}

theorem eq_gcm_of_modes {cipherMode : BlockCipherMode}
    (known : modes cipherMode = some .gcm) : cipherMode = .gcm := by
  cases cipherMode <;> simp [modes] at known ⊢

/-- What decryption makes of a mode that takes a nonce. -/
theorem decryptionMode_of_modes (package : Cryptography)
    {cipherMode : BlockCipherMode}
    {modeClass : ModeClass} (block : algorithm ≠ .rc4)
    (known : modes cipherMode = some modeClass) (takes : modeClass ≠ .ecb)
    (nonce : Bytes) (authTag : Option Bytes) :
    decryptionMode package algorithm (some cipherMode) (some nonce) authTag =
      (do
        package.newMode
          (modeClass.mode nonce authTag (authTag.getD []).length)
        return some (modeClass.mode nonce authTag (authTag.getD []).length)) := by
  unfold decryptionMode
  rw [if_neg block]
  simp only [known]

/-- What encryption makes of a mode that takes a nonce: the nonce is given, or
is generated. -/
theorem encryptionMode_of_modes {cipherMode : BlockCipherMode}
    {modeClass : ModeClass} (block : algorithm ≠ .rc4)
    (known : modes cipherMode = some modeClass) (takes : modeClass ≠ .ecb)
    (selected : encryptionMode package algorithm cipher (some cipherMode) ivNonce
      authTagLength = .ok (mode, generated)) :
    ∃ nonce, (ivNonce <|> generated) = some nonce ∧
      mode = some (modeClass.mode nonce none authTagLength) ∧
      package.newMode (modeClass.mode nonce none authTagLength) = .ok () := by
  unfold encryptionMode at selected
  rw [if_neg block] at selected
  simp only [known] at selected
  cases modeClass with
  | ecb => exact absurd rfl takes
  | _ =>
      obtain ⟨blockSize, -, selected⟩ := except_bind_ok_iff.mp selected
      obtain ⟨⟨⟩, accepted, selected⟩ := except_bind_ok_iff.mp selected
      cases selected
      cases ivNonce with
      | none => exact ⟨_, rfl, rfl, accepted⟩
      | some nonce => exact ⟨nonce, rfl, rfl, accepted⟩

/-- The mode in which a context encrypts is that of the context that decrypts,
but for the tag of GCM. -/
theorem encryptionMode_cases
    (selected : encryptionMode package algorithm cipher cipherMode ivNonce
      authTagLength = .ok (mode, generated)) :
    (authenticates mode = false ∧
      ∀ authTag, decryptionMode package algorithm cipherMode
        (ivNonce <|> generated) authTag = .ok mode) ∨
    ∃ nonce, cipherMode = some .gcm ∧
      mode = some (.gcm nonce none authTagLength) ∧
      package.newMode (.gcm nonce none authTagLength) = .ok () ∧
      ∀ tag, decryptionMode package algorithm cipherMode
          (ivNonce <|> generated) (some tag) =
        (do
          package.newMode (.gcm nonce (some tag) tag.length)
          return some (.gcm nonce (some tag) tag.length)) := by
  by_cases stream : algorithm = .rc4
  · unfold encryptionMode at selected
    rw [if_pos stream] at selected
    cases selected
    refine .inl ⟨rfl, fun authTag => ?_⟩
    unfold decryptionMode
    rw [if_pos stream]
  · cases cipherMode with
    | none =>
        unfold encryptionMode at selected
        rw [if_neg stream] at selected
        cases selected
    | some cipherMode =>
        cases known : modes cipherMode with
        | none =>
            unfold encryptionMode at selected
            rw [if_neg stream] at selected
            simp only [known] at selected
            cases selected
        | some modeClass =>
            by_cases takes : modeClass = .ecb
            · subst takes
              unfold encryptionMode at selected
              rw [if_neg stream] at selected
              simp only [known] at selected
              obtain ⟨⟨⟩, accepted, selected⟩ := except_bind_ok_iff.mp selected
              cases selected
              refine .inl ⟨rfl, fun authTag => ?_⟩
              unfold decryptionMode
              rw [if_neg stream]
              simp only [known, accepted]
              rfl
            · obtain ⟨nonce, given, rfl, accepted⟩ :=
                encryptionMode_of_modes stream known takes selected
              have decryption :=
                decryptionMode_of_modes package stream known takes nonce
              rw [given]
              by_cases gcm : modeClass = .gcm
              · subst gcm
                cases eq_gcm_of_modes known
                exact .inr ⟨nonce, rfl, rfl, accepted, fun tag => decryption _⟩
              · -- the other modes have no tag, so they are the same
                have same : ∀ authTag length,
                    modeClass.mode nonce authTag length =
                      modeClass.mode nonce none authTagLength := by
                  intro authTag length
                  cases modeClass with
                  | gcm => exact absurd rfl gcm
                  | _ => rfl
                refine .inl ⟨?_, fun authTag => ?_⟩
                · cases modeClass with
                  | gcm => exact absurd rfl gcm
                  | _ => rfl
                · rw [decryption, same, accepted]
                  rfl

end Modes

section Inversion

variable {package : Cryptography} {algorithm : CryptographicAlgorithm}
  {key plainText : Bytes} {cipherMode : Option BlockCipherMode}
  {paddingMethod : Option PaddingMethod}
  {ivNonce additional : Option Bytes} {authTagLength : Option Int}
  {result : EncryptionResult}

/-- What happens in an encryption that succeeds. -/
structure Encryption (package : Cryptography)
    (algorithm : CryptographicAlgorithm) (key plainText : Bytes)
    (cipherMode : Option BlockCipherMode) (paddingMethod : Option PaddingMethod)
    (ivNonce additional : Option Bytes) (authTagLength : Option Int)
    (result : EncryptionResult) where
  cipher : CipherAlgorithm
  mode : Option CipherMode
  padded : Bytes
  tag : Bytes
  known : symmetricKeyAlgorithms algorithm = some cipher
  accepted : package.newAlgorithm cipher key = .ok ()
  onlyGcm : (!isGcmMode cipherMode && additional.isSome) = false
  selected : encryptionMode package algorithm cipher cipherMode ivNonce
    (authTagLength.getD 0) = .ok (mode, result.ivNonce)
  pads : paddedText package cipher (some plainText) cipherMode paddingMethod =
    .ok (some padded)
  onlyAuthenticating : (additional.isSome && !authenticates mode) = false
  encrypts : package.encrypt cipher key mode additional padded =
    .ok (result.cipherText, tag)
  ends : if isGcmMode cipherMode then authenticates mode = true ∧
      ∃ length, authTagLength = some length ∧
        result.authTag = some (takeTo length tag)
    else result.authTag = none

theorem symmetricAlgorithm_ok_iff {refusal : PyError} {cipher : CipherAlgorithm} :
    symmetricAlgorithm algorithm refusal = .ok cipher ↔
      symmetricKeyAlgorithms algorithm = some cipher := by
  unfold symmetricAlgorithm
  cases symmetricKeyAlgorithms algorithm <;> simp

theorem setKey_ok_iff {cipher : CipherAlgorithm} {failure : PyError}
    {value : Unit} :
    setKey package cipher key failure = .ok value ↔
      package.newAlgorithm cipher key = .ok value := by
  unfold setKey
  cases package.newAlgorithm cipher key <;> simp [Except.mapError]

theorem paddedText_some {cipher : CipherAlgorithm} {data : Option Bytes}
    (pads : paddedText package cipher (some plainText) cipherMode paddingMethod =
      .ok data) : ∃ padded, data = some padded := by
  unfold paddedText at pads
  split at pads
  · cases handled : handleSymmetricPadding package cipher (some plainText)
        paddingMethod false with
    | error exception =>
        rw [handled] at pads
        cases pads
    | ok padded =>
        rw [handled] at pads
        cases pads
        exact ⟨padded, rfl⟩
  · cases pads
    exact ⟨plainText, rfl⟩

theorem encryption_of_encryptSymmetric
    (encrypted : encryptSymmetric package algorithm key (some plainText)
      cipherMode paddingMethod ivNonce additional authTagLength = .ok result) :
    Nonempty (Encryption package algorithm key plainText cipherMode
      paddingMethod ivNonce additional authTagLength result) := by
  unfold encryptSymmetric at encrypted
  obtain ⟨cipher, known, encrypted⟩ := except_bind_ok_iff.mp encrypted
  obtain ⟨⟨⟩, accepted, encrypted⟩ := except_bind_ok_iff.mp encrypted
  obtain ⟨⟨⟩, onlyGcm, encrypted⟩ := except_bind_ok_iff.mp encrypted
  obtain ⟨⟨⟩, given, encrypted⟩ := except_bind_ok_iff.mp encrypted
  obtain ⟨⟨mode, generated⟩, selected, encrypted⟩ :=
    except_bind_ok_iff.mp encrypted
  obtain ⟨data, pads, encrypted⟩ := except_bind_ok_iff.mp encrypted
  obtain ⟨padded, rfl⟩ := paddedText_some pads
  obtain ⟨⟨⟩, onlyAuthenticating, encrypted⟩ := except_bind_ok_iff.mp encrypted
  obtain ⟨_, ⟨⟩, encrypted⟩ := except_bind_ok_iff.mp encrypted
  obtain ⟨⟨cipherText, tag⟩, encrypts, ends⟩ := except_bind_ok_iff.mp encrypted
  have given := refuseWhen_ok_iff.mp given
  simp only at ends
  unfold encryptionResult at ends
  by_cases gcm : isGcmMode cipherMode = true
  · rw [if_pos gcm] at ends
    by_cases authenticating : authenticates mode = true
    · rw [if_pos authenticating] at ends
      cases ends
      cases authTagLength with
      | none => simp [gcm] at given
      | some length =>
          exact ⟨{
            cipher, mode, padded, tag
            known := symmetricAlgorithm_ok_iff.mp known
            accepted := setKey_ok_iff.mp accepted
            onlyGcm := refuseWhen_ok_iff.mp onlyGcm
            selected
            pads
            onlyAuthenticating := refuseWhen_ok_iff.mp onlyAuthenticating
            encrypts
            ends := by
              rw [if_pos gcm]
              exact ⟨authenticating, length, rfl, rfl⟩ }⟩
    · rw [if_neg authenticating] at ends
      cases ends
  · rw [if_neg gcm] at ends
    cases ends
    exact ⟨{
      cipher, mode, padded, tag
      known := symmetricAlgorithm_ok_iff.mp known
      accepted := setKey_ok_iff.mp accepted
      onlyGcm := refuseWhen_ok_iff.mp onlyGcm
      selected
      pads
      onlyAuthenticating := refuseWhen_ok_iff.mp onlyAuthenticating
      encrypts
      ends := by rw [if_neg gcm] }⟩

/-- What decryption does with the parameters of an encryption, from the mode
on. -/
theorem decryptSymmetric_of_encryption
    (encryption : Encryption package algorithm key plainText cipherMode
      paddingMethod ivNonce additional authTagLength result)
    {authTag : Option Bytes}
    (tagged : (isGcmMode cipherMode && authTag.isNone) = false) :
    decryptSymmetric package algorithm key (some result.cipherText) cipherMode
        paddingMethod (ivNonce <|> result.ivNonce) additional authTag =
      (do
        let mode ← decryptionMode package algorithm cipherMode
          (ivNonce <|> result.ivNonce) authTag
        refuseWhen (additional.isSome && !authenticates mode)
          (.python .attributeError)
        let plainText ← package.decrypt encryption.cipher key mode additional
          result.cipherText
        unpaddedText package encryption.cipher plainText cipherMode
          paddingMethod) := by
  have onlyGcm : (additional.isSome && !isGcmMode cipherMode) = false := by
    rw [Bool.and_comm]
    exact encryption.onlyGcm
  have first (exception : PyError) := refuseWhen_passes onlyGcm exception
  have second (exception : PyError) := refuseWhen_passes tagged exception
  unfold decryptSymmetric
  rw [symmetricAlgorithm_ok_iff.mpr encryption.known]
  simp only [bind, Except.bind, setKey_ok_iff.mpr encryption.accepted, first,
    second, contextBytes]

theorem handleSymmetricPadding_ok_iff {cipher : CipherAlgorithm}
    {undoPadding : Bool} {data : Bytes} :
    handleSymmetricPadding package cipher (some plainText) paddingMethod
        undoPadding = .ok data ↔
      ∃ method padding blockSize, paddingMethod = some method ∧
        symmetricPaddingMethods method = some padding ∧
        cipher.blockSize = some blockSize ∧
        (if undoPadding then package.unpad padding blockSize plainText
          else package.pad padding blockSize plainText) = .ok data := by
  unfold handleSymmetricPadding
  cases paddingMethod with
  | none => simp
  | some method =>
      cases known : symmetricPaddingMethods method with
      | none => simp [known]
      | some padding =>
          cases sized : cipher.blockSize with
          | none => simp [known, blockSizeOf, sized, bind, Except.bind]
          | some blockSize =>
              simp [known, blockSizeOf, sized, bind, Except.bind, contextBytes]

theorem paddedText_padded {cipher : CipherAlgorithm} {padded : Bytes}
    (block : isPadded cipherMode = true)
    (pads : paddedText package cipher (some plainText) cipherMode paddingMethod =
      .ok (some padded)) :
    handleSymmetricPadding package cipher (some plainText) paddingMethod false =
      .ok padded := by
  unfold paddedText at pads
  rw [if_pos block] at pads
  cases handled : handleSymmetricPadding package cipher (some plainText)
      paddingMethod false with
  | error exception =>
      rw [handled] at pads
      cases pads
  | ok data =>
      rw [handled] at pads
      cases pads
      rfl

theorem unpaddedText_of_encryption (inverts : package.Inverts)
    (encryption : Encryption package algorithm key plainText cipherMode
      paddingMethod ivNonce additional authTagLength result) :
    unpaddedText package encryption.cipher encryption.padded cipherMode
      paddingMethod = .ok plainText := by
  have pads := encryption.pads
  unfold unpaddedText
  by_cases block : isPadded cipherMode = true
  · rw [if_pos block]
    obtain ⟨method, padding, blockSize, chosen, known, sized, pads⟩ :=
      handleSymmetricPadding_ok_iff.mp (paddedText_padded block pads)
    exact handleSymmetricPadding_ok_iff.mpr ⟨method, padding, blockSize, chosen,
      known, sized, inverts.unpads padding blockSize _ _ pads⟩
  · unfold paddedText at pads
    rw [if_neg block] at pads ⊢
    injection pads with same
    injection same with same
    exact congrArg Except.ok same.symm

end Inversion

/-- An encryption is undone by decryption with its parameters, the nonce and the
tag that it returned, unless its tag is too short. -/
theorem decrypt_encrypt_iff
    {package : Cryptography} (inverts : package.Inverts)
    (algorithm : CryptographicAlgorithm) (symmetric : algorithm ≠ .rsa)
    (key plainText : Bytes) (cipherMode : Option BlockCipherMode)
    (paddingMethod : Option PaddingMethod)
    (ivNonce : Option Bytes) (hashingAlgorithm : Option HashingAlgorithm)
    (additional : Option Bytes) (authTagLength : Option Int)
    (result : EncryptionResult)
    (encrypted : encrypt package (some algorithm) key (some plainText)
      cipherMode paddingMethod ivNonce hashingAlgorithm additional
      authTagLength = .ok result) :
    decrypt package (some algorithm) key (some result.cipherText) cipherMode
        paddingMethod (ivNonce <|> result.ivNonce) hashingAlgorithm additional
        result.authTag = .ok plainText ↔
      (cipherMode = some .gcm →
        ∀ length, authTagLength = some length → LeavesTag length) := by
  unfold encrypt at encrypted
  simp only [if_neg symmetric] at encrypted
  obtain ⟨encryption⟩ := encryption_of_encryptSymmetric encrypted
  have unpads := unpaddedText_of_encryption inverts encryption
  have ends := encryption.ends
  unfold decrypt
  simp only [if_neg symmetric]
  rcases encryptionMode_cases encryption.selected with
    ⟨plain, same⟩ | ⟨nonce, rfl, mode, accepted, selects⟩
  · -- no tag: the two contexts are the same
    have notGcm : isGcmMode cipherMode = false := by
      cases gcm : isGcmMode cipherMode with
      | false => rfl
      | true =>
          rw [gcm, if_pos rfl, plain] at ends
          cases ends.1
    rw [notGcm, if_neg (by simp)] at ends
    have tagged : (isGcmMode cipherMode && result.authTag.isNone) = false := by
      rw [notGcm, Bool.false_and]
    have passes := refuseWhen_passes encryption.onlyAuthenticating
      (.python .attributeError)
    have opens := inverts.decrypts _ _ _ _ _ _ _ plain encryption.encrypts
    rw [decryptSymmetric_of_encryption encryption tagged, same]
    simp only [bind, Except.bind, passes, opens, unpads, true_iff]
    rintro rfl
    cases notGcm
  · have gcm : isGcmMode (some .gcm) = true := rfl
    rw [gcm, if_pos rfl] at ends
    obtain ⟨-, length, rfl, authTag⟩ := ends
    have encrypts := encryption.encrypts
    rw [mode] at encrypts
    have enough := four_le_length_takeTo
      (inverts.tagLength _ _ _ _ _ _ _ _ encrypts) length
    have tagged : (isGcmMode (some .gcm) && result.authTag.isNone) = false := by
      rw [authTag]
      rfl
    rw [decryptSymmetric_of_encryption encryption tagged, authTag, selects]
    have condition : ((some BlockCipherMode.gcm = some .gcm) →
        ∀ other, some length = some other → LeavesTag other) ↔
        LeavesTag length := by
      constructor
      · intro leaves
        exact leaves rfl length rfl
      · rintro leaves - other ⟨⟩
        exact leaves
    rw [condition, ← enough]
    by_cases leaves : 4 ≤ (takeTo length encryption.tag).length
    · have accepts := inverts.acceptsTag nonce _ _ accepted leaves
      obtain ⟨count, cut⟩ := takeTo_eq_take length encryption.tag
      have opens := inverts.authenticates _ _ _ _ _ _ _ _ count encrypts
        (cut ▸ leaves)
      rw [← cut] at opens
      have passes : refuseWhen (additional.isSome &&
          !authenticates (some (.gcm nonce
            (some (takeTo length encryption.tag))
            (takeTo length encryption.tag).length)))
          (.python .attributeError) = .ok () :=
        refuseWhen_passes (by simp [authenticates, CipherMode.authenticates]) _
      simp only [bind, Except.bind, accepts, pure, Except.pure, passes, opens,
        unpads, leaves]
    · have refuses := inverts.refusesTag nonce _ (Nat.lt_of_not_le leaves)
      simp only [leaves, iff_false]
      intro opened
      obtain ⟨_, selected, -⟩ := except_bind_ok_iff.mp opened
      obtain ⟨⟨⟩, accepts, -⟩ := except_bind_ok_iff.mp selected
      exact refuses accepts

section Example

/-- A text that has been encrypted. -/
structure GcmRecord where
  plainText : Bytes
  cipherText : Bytes
  tag : Bytes
deriving DecidableEq

/-- What AES-GCM makes of no bytes and of sixteen zeros, with a key of zeros and
a nonce of zeros. -/
def gcmRecords : List GcmRecord :=
  [{ plainText := []
     cipherText := []
     tag := [0x58, 0xe2, 0xfc, 0xce, 0xfa, 0x7e, 0x30, 0x61, 0x36, 0x7f, 0x1d,
       0x57, 0xa4, 0xe7, 0x45, 0x5a] },
   { plainText := .replicate 16 0
     cipherText := [0x03, 0x88, 0xda, 0xce, 0x60, 0xb6, 0xa3, 0x92, 0xf3, 0x28,
       0xc2, 0xb9, 0x71, 0xb2, 0xfe, 0x78]
     tag := [0xab, 0x6e, 0x47, 0xd4, 0x2c, 0xec, 0x13, 0xbd, 0xf5, 0x3a, 0x67,
       0xb2, 0x12, 0x57, 0xbd, 0xdf] }]

theorem find_gcmRecords :
    ∀ record ∈ gcmRecords, record.tag.length = 16 ∧
      gcmRecords.find? (·.cipherText = record.cipherText) = some record := by
  decide

/-- A package that knows these texts. -/
def recordedGcm : Cryptography :=
  { Cryptography.refusing with
    newAlgorithm := fun _ key =>
      if key.length = 16 then .ok () else .error (.python .valueError)
    newMode := fun mode =>
      match mode with
      | .gcm _ (some tag) minTagLength =>
          if 4 ≤ minTagLength ∧ minTagLength ≤ tag.length then .ok ()
          else .error (.python .valueError)
      | _ => .ok ()
    encrypt := fun algorithm key mode additional plainText =>
      match mode, gcmRecords.find? (·.plainText = plainText) with
      | some (.gcm nonce none _), some record =>
          if algorithm = .aes ∧ key = .replicate 16 0 ∧
            nonce = .replicate 12 0 ∧ additional = none
          then .ok (record.cipherText, record.tag)
          else .error (.python .unsupportedAlgorithm)
      | _, _ => .error (.python .unsupportedAlgorithm)
    decrypt := fun algorithm key mode additional cipherText =>
      match mode, gcmRecords.find? (·.cipherText = cipherText) with
      | some (.gcm nonce (some tag) _), some record =>
          if algorithm = .aes ∧ key = .replicate 16 0 ∧
            nonce = .replicate 12 0 ∧ additional = none ∧
            record.tag.take tag.length = tag
          then .ok record.plainText
          else .error (.python .unsupportedAlgorithm)
      | _, _ => .error (.python .unsupportedAlgorithm) }

theorem recordedGcm_encrypt {algorithm : CipherAlgorithm} {key nonce : Bytes}
    {minTagLength : Int} {additional : Option Bytes}
    {plainText cipherText tag : Bytes}
    (encrypted : recordedGcm.encrypt algorithm key
      (some (.gcm nonce none minTagLength)) additional plainText =
        .ok (cipherText, tag)) :
    (algorithm = .aes ∧ key = .replicate 16 0 ∧ nonce = .replicate 12 0 ∧
      additional = none) ∧ ⟨plainText, cipherText, tag⟩ ∈ gcmRecords := by
  simp only [recordedGcm] at encrypted
  cases found : gcmRecords.find? (·.plainText = plainText) with
  | none =>
      rw [found] at encrypted
      cases encrypted
  | some record =>
      rw [found] at encrypted
      dsimp only at encrypted
      split at encrypted
      · rename_i known
        cases encrypted
        have same : record.plainText = plainText := by
          simpa using List.find?_some found
        subst same
        exact ⟨known, List.mem_of_find?_eq_some found⟩
      · cases encrypted

theorem recordedGcm_inverts : recordedGcm.Inverts where
  decrypts := by
    intro algorithm key mode additional plainText cipherText tag plain encrypted
    cases mode with
    | none => cases encrypted
    | some mode =>
        cases mode with
        | gcm => cases plain
        | _ => cases encrypted
  authenticates := by
    intro algorithm key nonce minTagLength additional plainText cipherText tag
      count encrypted enough
    obtain ⟨⟨rfl, rfl, rfl, rfl⟩, recorded⟩ := recordedGcm_encrypt encrypted
    obtain ⟨-, found⟩ := find_gcmRecords _ recorded
    have cut : tag.take (tag.take count).length = tag.take count := by
      simp
    simp only [recordedGcm, found, cut, and_self, if_true]
  tagLength := by
    intro algorithm key nonce minTagLength additional plainText cipherText tag
      encrypted
    obtain ⟨-, recorded⟩ := recordedGcm_encrypt encrypted
    exact (find_gcmRecords _ recorded).1
  acceptsTag := by
    intro nonce minTagLength tag accepted enough
    simp only [recordedGcm]
    rw [if_pos ⟨by omega, by omega⟩]
  refusesTag := by
    intro nonce tag short accepted
    simp only [recordedGcm] at accepted
    rw [if_neg (by omega)] at accepted
    cases accepted
  unpads := by
    intro padding blockSize plainText padded pads
    cases pads

/-- Sixteen zeros are encrypted and decrypted again, with the tag of that. -/
theorem decrypt_encrypt_iff_recorded :
    decrypt recordedGcm (some .aes) (.replicate 16 0)
        (some [0x03, 0x88, 0xda, 0xce, 0x60, 0xb6, 0xa3, 0x92, 0xf3, 0x28, 0xc2,
          0xb9, 0x71, 0xb2, 0xfe, 0x78])
        (some .gcm) none (some (.replicate 12 0)) none none
        (some [0xab, 0x6e, 0x47, 0xd4, 0x2c, 0xec, 0x13, 0xbd, 0xf5, 0x3a, 0x67,
          0xb2, 0x12, 0x57, 0xbd, 0xdf]) =
      .ok (.replicate 16 0) := by
  refine (decrypt_encrypt_iff recordedGcm_inverts .aes (by decide)
    (.replicate 16 0) (.replicate 16 0) (some .gcm) none
    (some (.replicate 12 0)) none none (some 16) _ rfl).mpr ?_
  rintro - length ⟨⟩
  exact .inl (by decide)

/-- A tag of three bytes is returned, and cannot be used. -/
theorem short_tag_is_not_undone :
    encrypt recordedGcm (some .aes) (.replicate 16 0) (some []) (some .gcm) none
        (some (.replicate 12 0)) none none (some 3) =
      .ok { cipherText := [], authTag := some [0x58, 0xe2, 0xfc] } ∧
    decrypt recordedGcm (some .aes) (.replicate 16 0) (some []) (some .gcm) none
        (some (.replicate 12 0)) none none (some [0x58, 0xe2, 0xfc]) ≠
      .ok [] := by
  refine ⟨rfl, ?_⟩
  intro opened
  cases opened

end Example

end PyKMIP
