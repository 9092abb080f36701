import BoundKey.Proofs.Crypto.BlockCipher
import BoundKey.Proofs.Manager.Work

set_option autoImplicit false

/-!
Decryption undoes encryption, from the single block up to the texts that a
manager hands out. Between encryption and decryption the store may have changed
in every way but one: it must still hold the key. Texts are put together from
the bytes of all blocks before they are read, so it does not matter where a
block ends within a character.
-/

namespace BoundKey

theorem CipherAlgorithm.eq_rsa_of_cipher? {algorithm : CipherAlgorithm}
    {cipher : Cipher} (found : algorithm.cipher? = some cipher) :
    ∃ padding, cipher = .rsa padding := by
  cases algorithm with
  | oaepSha1 | oaepSha1Single => cases found
  | pkcs1 | oaepSha256 | oaepSha384 | oaepSha512 =>
      cases found
      exact ⟨_, rfl⟩

namespace Manager

variable {σ : Type}

theorem cipher_standard {manager : Manager}
    (standard : manager.provider = .standard) (algorithm : CipherAlgorithm) :
    manager.cipher algorithm = match algorithm.cipher? with
      | some cipher => .ok cipher
      | none =>
          .error (.paddingUnsupported
            (ProviderFault.missingCipher algorithm.name).message) := by
  rw [Manager.cipher, standard]
  cases algorithm with
  | _ => rfl

theorem ciphertext_eq_ok_iff {manager : Manager}
    (standard : manager.provider = .standard) {spec : CipherSpec}
    {tape : Tape} {message bytes : Bytes} {entry : KeyEntry} :
    manager.ciphertext spec tape message entry = .ok bytes ↔
      ∃ cipher, spec.algorithm.cipher? = some cipher ∧
      cipher.encrypt tape message entry.publicKey spec.parameters =
        .ok bytes := by
  rw [ciphertext, cipher_standard standard]
  cases spec.algorithm.cipher? with
  | none =>
      constructor
      · exact nofun
      · rintro ⟨cipher, missing, _⟩
        cases missing
  | some cipher =>
      change Except.mapError _ _ = _ ↔ _
      rw [mapError_eq_ok_iff]
      constructor
      · exact fun made => ⟨cipher, rfl, made⟩
      · rintro ⟨other, same, made⟩
        cases same
        exact made

theorem deciphered_ciphertext {manager : Manager}
    (standard : manager.provider = .standard) {spec : CipherSpec}
    {tape : Tape} {message bytes : Bytes} {entry other : KeyEntry}
    (sound : entry.privateKey.IsSound)
    (same : other.privateKey = entry.privateKey)
    (made : manager.ciphertext spec tape message entry = .ok bytes) :
    manager.deciphered spec bytes other = .ok message := by
  obtain ⟨cipher, found, encrypted⟩ := (ciphertext_eq_ok_iff standard).1 made
  obtain ⟨padding, isRsa⟩ := CipherAlgorithm.eq_rsa_of_cipher? found
  subst isRsa
  obtain ⟨room, checked, label, labelled⟩ := BlockCipher.of_encrypt encrypted
  obtain ⟨ciphertext, again, _, decrypted⟩ :=
    BlockCipher.decrypt_encrypt sound checked room labelled tape message
  have unique : ciphertext = bytes := Except.ok.inj (again.symm.trans encrypted)
  rw [deciphered, cipher_standard standard, found, same, ← unique]
  change Except.mapError _ _ = _
  rw [mapError_eq_ok_iff]
  exact decrypted spec.parameters labelled

theorem run_encryptText_ok_iff {handler : Program.Handler StoreInterface σ}
    {state : σ} {manager : Manager}
    {spec : CipherSpec} {tape : Tape} {text ciphertext : String}
    {entry : KeyEntry} (held : (handler state .entry).1 = some (.ok entry)) :
    (Program.run handler state (manager.encryptText spec tape text).run).1 =
      some (.ok ciphertext) ↔
      ∃ bytes, manager.ciphertext spec tape (Utf8.encode text) entry = .ok bytes ∧
        Base64.encode .unpadded bytes = ciphertext := by
  rw [(manager.works_encryptText spec tape text).value, held, ← map_eq_ok_iff]
  exact Option.some_inj

theorem run_decryptText_encode {handler : Program.Handler StoreInterface σ}
    {state : σ} {manager : Manager}
    {spec : CipherSpec} {text : String} {bytes : Bytes} {entry : KeyEntry}
    (held : (handler state .entry).1 = some (.ok entry))
    (deciphered : manager.deciphered spec bytes entry = .ok (Utf8.encode text)) :
    (Program.run handler state
      (manager.decryptText spec (Base64.encode .unpadded bytes)).run).1 =
      some (.ok text) := by
  have read : plaintext (Utf8.encode text) = .ok text := by
    rw [plaintext, Utf8.decode_encode]
    rfl
  rw [(manager.works_decryptText spec
    (Base64.decode_encode .unpadded bytes)).value, held]
  change some (manager.deciphered spec bytes entry >>= plaintext) = _
  rw [deciphered]
  exact congrArg some read

/-- Every message is encrypted, at one modulus length for each piece that fits a
block, and decrypted again under the same label; and whatever ciphertext a
manager yields for a text, it yields the text for the ciphertext, as long as the
store holds the key. -/
theorem decryption_undoes_encryption
    {key : Rsa.PrivateKey} (sound : key.IsSound) :
    (∀ (padding : RsaPadding) (given : Option CipherParameters) (label : Bytes)
      (tape : Tape) (message : Bytes),
      key.publicKey.check = .ok () → padding.overhead < key.size →
        BlockCipher.labelBytes padding given = .ok label →
      ∃ ciphertext, (Cipher.rsa padding).encrypt tape message key.publicKey
        given = .ok ciphertext ∧
        ciphertext.length = key.size *
          max 1 ((message.length + (key.size - padding.overhead) - 1) /
            (key.size - padding.overhead)) ∧
        ∀ other, BlockCipher.labelBytes padding other = .ok label →
          (Cipher.rsa padding).decrypt ciphertext key other = .ok message) ∧
    (∀ digest, BlockCipher.labelBytes (.oaep digest) none = .ok [] ∧
      BlockCipher.labelBytes (.oaep digest) (some ⟨none⟩) = .ok [] ∧
      BlockCipher.labelBytes (.oaep digest) (some ⟨some ""⟩) = .ok [] ∧
      ∀ text, BlockCipher.labelBytes (.oaep digest) (some ⟨some text⟩) =
        .ok (Utf8.encode text)) ∧
    (∀ (σ : Type) (handler : Program.Handler StoreInterface σ) (state later : σ)
      (manager : Manager) (entry other : KeyEntry),
      manager.provider = .standard → (handler state .entry).1 = some (.ok entry) →
      (handler later .entry).1 = some (.ok other) → entry.privateKey = key →
        other.privateKey = key →
      ∀ (spec : CipherSpec) (tape : Tape) (text : String),
        (∀ padding label, spec.algorithm.cipher? = some (.rsa padding) →
          key.publicKey.check = .ok () →
          padding.overhead < key.size →
          BlockCipher.labelBytes padding spec.parameters = .ok label →
          ∃ ciphertext,
            (Program.run handler state
              (manager.encryptText spec tape text).run).1 =
              some (.ok ciphertext)) ∧
        ∀ ciphertext,
          (Program.run handler state
            (manager.encryptText spec tape text).run).1 = some (.ok ciphertext) →
          (Program.run handler later
            (manager.decryptText spec ciphertext).run).1 = some (.ok text)) := by
  refine ⟨?_, ?_, ?_⟩
  · intro padding given label tape message checked room labelled
    exact BlockCipher.decrypt_encrypt sound checked room labelled tape message
  · intro digest
    exact ⟨rfl, rfl, rfl, fun text => rfl⟩
  · intro σ handler state later manager entry other standard held heldLater same
      sameLater spec tape text
    subst same
    constructor
    · intro padding label found checked room labelled
      obtain ⟨bytes, encrypted, _⟩ := BlockCipher.decrypt_encrypt sound checked
        room labelled tape (Utf8.encode text)
      exact ⟨_, (run_encryptText_ok_iff held).2
        ⟨bytes, (ciphertext_eq_ok_iff standard).2 ⟨_, found, encrypted⟩, rfl⟩⟩
    · intro ciphertext made
      obtain ⟨bytes, encrypted, written⟩ := (run_encryptText_ok_iff held).1 made
      rw [← written]
      exact run_decryptText_encode heldLater
        (deciphered_ciphertext standard sound sameLater encrypted)

/-- The case of a key of two Mersenne primes: 600 bytes take three blocks, and a
text of characters of three bytes each comes back although a block ends within
one of them. -/
theorem decryption_undoes_encryption_mersenne :
    Rsa.mersenneKey.IsSound ∧ Rsa.mersenneKey.publicKey.check = .ok () ∧
    (∃ ciphertext,
      (Cipher.rsa (.oaep .sha384)).encrypt (.ofSeed 0) (List.replicate 600 7)
        Rsa.mersenneKey.publicKey (some ⟨some "label"⟩) = .ok ciphertext ∧
        ciphertext.length = 352 * 3 ∧
      (Cipher.rsa (.oaep .sha384)).decrypt ciphertext Rsa.mersenneKey
        (some ⟨some "label"⟩) = .ok (List.replicate 600 7)) ∧
    ∃ ciphertext,
      (Program.run ProvisionedStore.handler mersenneStore
        (standardManager.encryptText ⟨.pkcs1, none⟩ (.ofSeed 0)
        (String.ofList (List.replicate 120 '€'))).run).1 = some (.ok ciphertext) ∧
      (Program.run ProvisionedStore.handler mersenneStore
        (standardManager.decryptText ⟨.pkcs1, none⟩ ciphertext).run).1 =
          some (.ok (String.ofList (List.replicate 120 '€'))) := by
  have checked : Rsa.mersenneKey.publicKey.check = .ok () := by decide +kernel
  have size : Rsa.mersenneKey.size = 352 := by decide +kernel
  obtain ⟨onBytes, labels, onTexts⟩ :=
    decryption_undoes_encryption Rsa.mersenneKey_isSound
  refine ⟨Rsa.mersenneKey_isSound, checked, ?_, ?_⟩
  · have labelled := (labels .sha384).2.2.2 "label"
    have room : (RsaPadding.oaep .sha384).overhead < Rsa.mersenneKey.size :=
      size ▸ (by decide : 98 < 352)
    obtain ⟨ciphertext, encrypted, sized, decrypted⟩ :=
      onBytes (.oaep .sha384) _ _ (.ofSeed 0) (List.replicate 600 7)
      checked room labelled
    rw [size, List.length_replicate] at sized
    exact ⟨ciphertext, encrypted, sized, decrypted _ labelled⟩
  · obtain ⟨succeeds, undone⟩ :=
      onTexts ProvisionedStore ProvisionedStore.handler
        mersenneStore mersenneStore
      standardManager mersenneEntry mersenneEntry rfl rfl rfl rfl rfl
      ⟨.pkcs1, none⟩ (.ofSeed 0) (String.ofList (List.replicate 120 '€'))
    have room : RsaPadding.pkcs1.overhead < Rsa.mersenneKey.size :=
      size ▸ (by decide : 11 < 352)
    obtain ⟨ciphertext, made⟩ := succeeds .pkcs1 [] rfl checked room rfl
    exact ⟨ciphertext, made, undone ciphertext made⟩

end Manager

end BoundKey
