import BoundKey.Proofs.Crypto.UncheckedKey
import BoundKey.Proofs.Log
import BoundKey.Proofs.Manager.Causes

set_option autoImplicit false

/-!
Runs that are alike from outside. What is to be signed or encrypted and what a
request says change the value of an operation, but neither whether there is one
nor the failure nor anything that is logged: a signature needs room for a
digest, whose length is the same for every message, and a message is cut into
pieces that fit.
-/

namespace BoundKey

/-! ### Outcomes -/

def outcome {α fault : Type} (result : Except fault α) : Except fault Unit :=
  result.map fun _ => ()

@[simp] theorem outcome_map {α β fault : Type} (result : Except fault α)
    (change : α → β) : outcome (result.map change) = outcome result := by
  cases result with
  | ok value => rfl
  | error cause => rfl

@[simp] theorem outcome_mapError {α fault other : Type}
    (result : Except fault α) (classify : fault → other) :
    outcome (result.mapError classify) = (outcome result).mapError classify := by
  cases result with
  | ok value => rfl
  | error cause => rfl

namespace Rsa

variable {key : PrivateKey}

theorem Pkcs1.outcome_sign (sound : key.IsSound) (text : Bytes) :
    outcome (sign key text) = if key.size < text.length + overhead then .error
      .messageTooLong else .ok () := by
  split
  · next long => rw [sign_of_long long]; rfl
  · next short =>
      obtain ⟨signature, signed⟩ := sign_ok sound (Nat.not_lt.1 short)
      rw [signed]
      rfl

theorem Pss.outcome_sign (sound : key.IsSound) (digest : Digest) (tape : Tape)
    (message : Bytes) : outcome (sign digest tape key message) =
      if encodedSize (bitLength key.modulus - 1) < 2 * digest.size + 2 then
        .error .inconsistent else .ok () := by
  split
  · next short =>
      have unencoded : encode digest (bitLength key.modulus - 1)
          (digest.hash message) (tape.take digest.size) = none :=
        if_pos short
      rw [sign, unencoded]
      rfl
  · next room =>
      obtain ⟨signature, signed⟩ := sign_ok sound (Nat.not_lt.1 room) tape message
      rw [signed]
      rfl

end Rsa

/-- Encryption fails alike for all messages, so it also succeeds alike. -/
theorem BlockCipher.outcome_encrypt (padding : RsaPadding) (key : Rsa.PublicKey)
    (given : Option CipherParameters)
    (tape otherTape : Tape) (message other : Bytes) :
    outcome (encrypt padding tape message key given) =
      outcome (encrypt padding otherTape other key given) := by
  have alike :=
    encrypt_eq_error_congr padding key given tape otherTape message other
  cases first : encrypt padding tape message key given with
  | error fault => rw [(alike fault).1 first]
  | ok ciphertext =>
      cases second : encrypt padding otherTape other key given with
      | error fault => simp [(alike fault).2 second] at first
      | ok otherCiphertext => rfl

/-! ### Signers -/

/-- A signer whose success says nothing of the message. -/
def Signer.IsDiscreet (signer : Signer) (key : Rsa.PrivateKey) : Prop :=
  ∀ tape otherTape message other,
    outcome (signer.sign tape message key) =
      outcome (signer.sign otherTape other key)

theorem Signer.isDiscreet_pkcs1 {key : Rsa.PrivateKey} (sound : key.IsSound)
    (digest : Digest) : (pkcs1 digest).IsDiscreet key := by
  intro tape otherTape message other
  simp only [pkcs1, outcome_mapError, Rsa.Pkcs1.outcome_sign sound,
    Rsa.Pkcs1.digestInfo_length]

theorem Signer.isDiscreet_pss {key : Rsa.PrivateKey} (sound : key.IsSound)
    (digest : Digest) : (pss digest).IsDiscreet key := by
  intro tape otherTape message other
  simp only [pss, outcome_mapError, Rsa.Pss.outcome_sign sound]

/-- All signers are discreet but the one that signs a message as it is. -/
theorem SigningAlgorithm.isDiscreet {algorithm : SigningAlgorithm}
    (described : algorithm ≠ .none) {signer : Signer}
    (found : algorithm.signer? = some signer) {key : Rsa.PrivateKey}
    (sound : key.IsSound) : signer.IsDiscreet key := by
  cases algorithm with
  | none => exact absurd rfl described
  | md5 => cases found
  | sha256 | sha384 | sha512 =>
      cases found
      exact Signer.isDiscreet_pkcs1 sound _
  | sha256Pss | sha384Pss | sha512Pss =>
      cases found
      exact Signer.isDiscreet_pss sound _

/-! ### Work with an entry -/

namespace Manager

variable {manager : Manager} {entry : KeyEntry}

theorem outcome_signature (standard : manager.provider = .standard)
    (sound : entry.privateKey.IsSound)
    {algorithm : SigningAlgorithm} (described : algorithm ≠ .none)
    (tape otherTape : Tape) (message other : Bytes) :
    outcome (manager.signature algorithm tape message entry) =
      outcome (manager.signature algorithm otherTape other entry) := by
  cases found : algorithm.signer? with
  | none => rw [signature, signature, signer_standard standard, found]; rfl
  | some signer =>
      rw [signature_of_signer standard found,
        signature_of_signer standard found, outcome_mapError, outcome_mapError,
        algorithm.isDiscreet described found sound tape otherTape message other]

theorem outcome_tokenOf (standard : manager.provider = .standard)
    (sound : entry.privateKey.IsSound)
    (tape otherTape : Tape) (request other : Request) (target : RequestTarget) :
    outcome (manager.tokenOf tape request target entry) =
      outcome (manager.tokenOf otherTape other target entry) := by
  have found : manager.signer .sha256 = .ok (.pkcs1 .sha256) := by
    rw [signer_standard standard]
    rfl
  rw [tokenOf, tokenOf, thumbprintOf_standard standard, found]
  change outcome (Except.mapError _ (Id.run _)) =
    outcome (Except.mapError _ (Id.run _))
  simp only [Jws.tokenize_run, outcome_mapError, outcome_map]
  rw [Signer.isDiscreet_pkcs1 sound .sha256 tape otherTape]

theorem outcome_ciphertext (standard : manager.provider = .standard)
    (entry : KeyEntry) (spec : CipherSpec)
    (tape otherTape : Tape) (message other : Bytes) :
    outcome (manager.ciphertext spec tape message entry) =
      outcome (manager.ciphertext spec otherTape other entry) := by
  rw [ciphertext, ciphertext, cipher_standard standard]
  cases found : spec.algorithm.cipher? with
  | none => rfl
  | some cipher =>
      obtain ⟨padding, isRsa⟩ := CipherAlgorithm.eq_rsa_of_cipher? found
      subst isRsa
      change outcome (Except.mapError _ _) = outcome (Except.mapError _ _)
      rw [outcome_mapError, outcome_mapError]
      exact congrArg _ (BlockCipher.outcome_encrypt padding _ _ _ _ _ _)

theorem tokenFor_of_refused (tape : Tape) {request : Request} {failure : Failure}
    (refused : RequestTarget.parse request.url = .error failure) :
    manager.tokenFor tape request = Operation.ofExcept (.error failure) := by
  rw [tokenFor, refused]
  rfl

/-! ### What is seen of a run -/

variable {α : Type}

/-- What is seen of an operation on a store in memory, but for its value: how it
ended, and all that it let others see on the way. -/
def observed (manager : Manager) (supply : SoftwareStore.Supply)
    (slot : Option KeyEntry) (operation : StoreOperation α) :
    Option (Except Failure Unit) × List Signal :=
  ((Program.run (SoftwareStore.handler manager.keyAlias supply) slot
    operation.run).1.map outcome,
    Program.signals (SoftwareStore.handler manager.keyAlias supply)
      slot operation.run)

theorem observed_work (manager : Manager) (supply : SoftwareStore.Supply)
    (slot : Option KeyEntry) (method : Method)
    (work : KeyEntry → Except Failure α) :
    manager.observed supply slot
        ((manager.entry >>= fun entry => Operation.ofExcept
          (work entry)).reporting method) =
      match slot.map fun entry => outcome (work entry) with
      | some (.ok ()) => (some (.ok ()), [])
      | some (.error failure) =>
          (some (.error failure), [.log (.operationFailed method failure)])
      | none => (some (.error (.keyMissing manager.keyAlias)),
          [.log (.entryNotReadable manager.keyAlias (.notFound manager.keyAlias)),
            .log (.operationFailed method (.keyMissing manager.keyAlias))]) := by
  cases slot with
  | none => rfl
  | some entry =>
      change manager.observed supply (some entry)
        ((Operation.ofExcept (work entry)).reporting method) = _
      rw [Option.map_some]
      cases work entry with
      | ok value => rfl
      | error failure => rfl

theorem observed_work_congr (manager : Manager)
    (supply otherSupply : SoftwareStore.Supply) {slot : Option KeyEntry}
    (method : Method) {work other : KeyEntry → Except Failure α}
    (alike : ∀ entry, slot = some entry →
      outcome (work entry) = outcome (other entry)) :
    manager.observed supply slot
        ((manager.entry >>= fun entry => Operation.ofExcept
          (work entry)).reporting method) =
      manager.observed otherSupply slot
        ((manager.entry >>= fun entry => Operation.ofExcept
          (other entry)).reporting method) := by
  rw [observed_work, observed_work]
  cases slot with
  | none => rfl
  | some entry => rw [Option.map_some, Option.map_some, alike entry rfl]

/-- Of a request nothing is seen but its URL and whether there is an access
token; of a message that is signed or encrypted nothing is seen at all, unless
it is signed as it is. -/
theorem secrets_unseen {manager : Manager}
    (standard : manager.provider = .standard) {slot : Option KeyEntry}
    (sound : ∀ entry, slot = some entry → entry.privateKey.IsSound)
    (supply otherSupply : SoftwareStore.Supply) :
    (∀ (tape otherTape : Tape) (request other : Request),
      request.url = other.url →
      request.accessToken.isSome = other.accessToken.isSome →
      manager.observed supply slot (manager.mint tape request) =
        manager.observed otherSupply slot (manager.mint otherTape other)) ∧
    (∀ (algorithm : SigningAlgorithm) (tape otherTape : Tape)
      (message other : Bytes), algorithm ≠ .none →
      manager.observed supply slot (manager.sign algorithm tape message) =
        manager.observed otherSupply slot
          (manager.sign algorithm otherTape other)) ∧
    ∀ (spec : CipherSpec) (tape otherTape : Tape) (message other : Bytes),
      manager.observed supply slot (manager.encrypt spec tape message) =
        manager.observed otherSupply slot
          (manager.encrypt spec otherTape other) := by
  refine ⟨?_, ?_, ?_⟩
  · intro tape otherTape request other sameUrl sameForm
    rw [mint, mint, sameForm]
    cases parsed : RequestTarget.parse request.url with
    | error failure =>
        rw [tokenFor_of_refused tape parsed,
          tokenFor_of_refused otherTape (sameUrl ▸ parsed)]
        rfl
    | ok target =>
        rw [tokenFor_of_parse parsed, tokenFor_of_parse (sameUrl ▸ parsed)]
        exact observed_work_congr manager supply otherSupply _ fun entry held =>
          outcome_tokenOf standard (sound entry held) tape otherTape
            request other target
  · intro algorithm tape otherTape message other described
    rw [sign, sign]
    simp only [Operation.ofExcept_bind_ofExcept]
    exact observed_work_congr manager supply otherSupply .sign fun entry held =>
      outcome_signature standard (sound entry held) described tape
        otherTape message other
  · intro spec tape otherTape message other
    rw [encrypt, encrypt]
    simp only [Operation.ofExcept_bind_ofExcept]
    exact observed_work_congr manager supply otherSupply .encrypt fun entry _ =>
      outcome_ciphertext standard entry spec tape otherTape message other

/-- The case of a key of two Mersenne primes, and of two access tokens for one
door. -/
theorem secrets_unseen_mersenne : standardManager.provider = .standard ∧
    mersenneEntry.privateKey.IsSound ∧
    standardManager.observed ⟨.ofSeed 0, ⟨0⟩⟩ (some mersenneEntry)
      (standardManager.mint (.ofSeed 1)
        ⟨"https://door.example/open", 1, some "POST", some "n-1",
          none, some "first"⟩) =
      standardManager.observed ⟨.ofSeed 2, ⟨3⟩⟩ (some mersenneEntry)
        (standardManager.mint (.ofSeed 4)
        ⟨"https://door.example/open", -5, none, some "", some "claims",
          some "another"⟩) ∧
    standardManager.observed ⟨.ofSeed 0, ⟨0⟩⟩ (some mersenneEntry)
      (standardManager.sign .sha512Pss (.ofSeed 1) []) =
      standardManager.observed ⟨.ofSeed 2, ⟨3⟩⟩ (some mersenneEntry)
        (standardManager.sign .sha512Pss (.ofSeed 4) (List.replicate 1000 7)) ∧
    standardManager.observed ⟨.ofSeed 0, ⟨0⟩⟩ (some mersenneEntry)
        (standardManager.encrypt ⟨.oaepSha256, none⟩ (.ofSeed 1) []) =
      standardManager.observed ⟨.ofSeed 2, ⟨3⟩⟩ (some mersenneEntry)
        (standardManager.encrypt ⟨.oaepSha256, none⟩ (.ofSeed 4)
          (List.replicate 1000 7)) := by
  have sound : ∀ entry, some mersenneEntry = some entry →
      entry.privateKey.IsSound := by
    intro entry held
    rw [← Option.some.inj held]
    exact Rsa.mersenneKey_isSound
  have standard : standardManager.provider = .standard := rfl
  obtain ⟨minted, signed, encrypted⟩ :=
    secrets_unseen standard sound ⟨.ofSeed 0, ⟨0⟩⟩ ⟨.ofSeed 2, ⟨3⟩⟩
  exact ⟨standard, Rsa.mersenneKey_isSound, minted _ _ _ _ rfl rfl,
    signed _ _ _ _ _ (by decide), encrypted _ _ _ _ _⟩

end Manager

end BoundKey
