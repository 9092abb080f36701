import BoundKey.Proofs.Manager.Answers

set_option autoImplicit false

/-!
Which operations fail for want of a key, and when: exactly those that work on
the key, and exactly if the slot is empty. The other way round needs the
registered primitives, because a signer of any other kind could report the same
failure.
-/

namespace BoundKey

/-! ### Parts of the standard provider -/

/-- A provider with some of the primitives that another one has, under the same
names. -/
structure CryptoProvider.IsPart (part whole : CryptoProvider) : Prop where
  hashers : part.hashers ⊆ whole.hashers
  signers : part.signers ⊆ whole.signers
  ciphers : part.ciphers ⊆ whole.ciphers

theorem CryptoProvider.IsPart.signer_registered
    {part : CryptoProvider} (isPart : part.IsPart .standard) {name : String}
    {signer : Signer} (found : part.signer name = .ok signer) :
    ∃ algorithm : SigningAlgorithm, algorithm.signer? = some signer := by
  rw [CryptoProvider.signer] at found
  split at found
  · next listed here =>
      cases found
      obtain ⟨front, back, whole, _⟩ := List.lookup_eq_some_iff.1 here
      have member : (name, signer) ∈ part.signers := by
        rw [whole]
        exact List.mem_append_right _ List.mem_cons_self
      obtain ⟨algorithm, _, registered⟩ :=
        List.mem_filterMap.1 (isPart.signers member)
      obtain ⟨own, offered, named⟩ := Option.map_eq_some_iff.1 registered
      cases named
      exact ⟨algorithm, offered⟩
  · cases found

/-! ### Failing for want of a key -/

def NotMissing {α : Type} (result : Except Failure α) : Prop :=
  ∀ detail, result ≠ .error (.keyMissing detail)

namespace NotMissing

variable {α β : Type}

theorem ok (value : α) : NotMissing (.ok value) :=
  nofun

theorem bind {result : Except Failure α} {next : α → Except Failure β}
    (first : NotMissing result)
    (later : ∀ value, result = .ok value → NotMissing (next value)) :
    NotMissing (result >>= next) := by
  cases result with
  | ok value => exact later value rfl
  | error failure =>
      intro detail missing
      exact first detail (congrArg Except.error (Except.error.inj missing))

theorem map {result : Except Failure α} (first : NotMissing result)
    (change : α → β) : NotMissing (result.map change) := by
  cases result with
  | ok value => exact ok (change value)
  | error failure =>
      intro detail missing
      exact first detail (congrArg Except.error (Except.error.inj missing))

theorem mapError {fault : Type} {classify : fault → Failure}
    {result : Except fault α}
    (other : ∀ cause, result = .error cause →
      ∀ detail, classify cause ≠ .keyMissing detail) :
    NotMissing (result.mapError classify) := by
  cases result with
  | ok value => exact ok value
  | error cause =>
      intro detail missing
      exact other cause rfl detail (Except.error.inj missing)

end NotMissing

theorem Failure.ofJwk_ne_keyMissing (fault : JwkFault) (detail : String) :
    ofJwk fault ≠ .keyMissing detail := by
  cases fault with
  | _ => exact nofun

theorem Failure.ofCipher_ne_keyMissing (fault : CipherFault) (detail : String) :
    ofCipher fault ≠ .keyMissing detail := by
  cases fault with
  | _ => exact nofun

/-- Only a signer that misses its key itself could fail for want of one. -/
theorem Failure.ofSigner_ne_keyMissing
    {fault : SignerFault} (own : fault ≠ .missingKey) (detail : String) :
    ofSigner fault ≠ .keyMissing detail := by
  cases fault with
  | missingKey => exact absurd rfl own
  | _ => exact nofun

theorem SigningAlgorithm.ne_missingKey_of_sign {algorithm : SigningAlgorithm}
    {signer : Signer} (offered : algorithm.signer? = some signer) {tape : Tape}
    {message : Bytes} {key : Rsa.PrivateKey}
    {fault : SignerFault}
    (failed : signer.sign tape message key = .error fault) :
    fault ≠ .missingKey := by
  have classified : ∀ {result : Except Rsa.Fault Bytes},
      result.mapError SignerFault.ofRsa = .error fault →
      fault ≠ .missingKey := by
    intro result same
    cases result with
    | ok signature => cases same
    | error cause =>
        cases same
        rw [SignerFault.ofRsa]
        split
        · exact nofun
        · exact nofun
  cases algorithm with
  | md5 => cases offered
  | none | sha256 | sha256Pss | sha384 | sha384Pss | sha512 | sha512Pss =>
      cases offered
      exact classified failed

namespace Manager

theorem notMissing_thumbprintOf (manager : Manager) (entry : KeyEntry) :
    NotMissing (manager.thumbprintOf entry) := by
  apply NotMissing.bind
  · exact NotMissing.mapError fun _ _ => nofun
  · exact fun hasher _ =>
      NotMissing.mapError fun fault _ => Failure.ofJwk_ne_keyMissing fault

theorem notMissing_signature {manager : Manager}
    (isPart : manager.provider.IsPart .standard)
    (algorithm : SigningAlgorithm) (tape : Tape) (message : Bytes)
    (entry : KeyEntry) :
    NotMissing (manager.signature algorithm tape message entry) := by
  apply NotMissing.bind
  · exact NotMissing.mapError fun _ _ => nofun
  · intro signer found
    obtain ⟨registered, offered⟩ :=
      isPart.signer_registered ((mapError_eq_ok_iff ..).1 found)
    exact NotMissing.mapError fun fault failed =>
      Failure.ofSigner_ne_keyMissing
        (registered.ne_missingKey_of_sign offered failed)

theorem notMissing_withCipher {α : Type} (manager : Manager)
    (algorithm : CipherAlgorithm) (work : Cipher → Except CipherFault α) :
    NotMissing (manager.cipher algorithm >>= fun cipher =>
      (work cipher).mapError .ofCipher) := by
  apply NotMissing.bind
  · exact NotMissing.mapError fun _ _ => nofun
  · exact fun cipher _ =>
      NotMissing.mapError fun fault _ => Failure.ofCipher_ne_keyMissing fault

theorem notMissing_ciphertext (manager : Manager) (spec : CipherSpec)
    (tape : Tape) (message : Bytes)
    (entry : KeyEntry) :
    NotMissing (manager.ciphertext spec tape message entry) :=
  manager.notMissing_withCipher spec.algorithm fun cipher =>
    cipher.encrypt tape message entry.publicKey spec.parameters

theorem notMissing_deciphered (manager : Manager) (spec : CipherSpec)
    (ciphertext : Bytes) (entry : KeyEntry) :
    NotMissing (manager.deciphered spec ciphertext entry) :=
  manager.notMissing_withCipher spec.algorithm fun cipher =>
    cipher.decrypt ciphertext entry.privateKey spec.parameters

theorem notMissing_plaintext (message : Bytes) : NotMissing (plaintext message) :=
  NotMissing.mapError fun _ _ => nofun

theorem notMissing_tokenOf (manager : Manager) (tape : Tape) (request : Request)
    (target : RequestTarget) (entry : KeyEntry) :
    NotMissing (manager.tokenOf tape request target entry) := by
  apply (manager.notMissing_thumbprintOf entry).bind
  intro thumbprint _
  apply NotMissing.bind
  · exact NotMissing.mapError fun _ _ => nofun
  · exact fun signer _ => NotMissing.mapError fun _ _ => nofun

theorem notMissing_confirmationOf (manager : Manager) (entry : KeyEntry) :
    NotMissing (manager.confirmationOf entry) :=
  (manager.notMissing_thumbprintOf entry).bind fun _ _ => .ok _

end Manager

def failureOf {α : Type} : Except Failure α → Option Failure
  | .ok _ => none
  | .error failure => some failure

theorem Manager.held_missing_iff {α : Type} (manager : Manager)
    {slot : Option KeyEntry} {work : KeyEntry → Except Failure α}
    (never : ∀ entry, NotMissing (work entry)) :
    failureOf (manager.held slot >>= work) =
      some (.keyMissing manager.keyAlias) ↔ slot = none := by
  cases slot with
  | none => exact ⟨fun _ => rfl, fun _ => rfl⟩
  | some entry =>
      refine ⟨fun missing => ?_, nofun⟩
      change failureOf (work entry) = _ at missing
      cases worked : work entry with
      | ok value =>
          rw [worked] at missing
          cases missing
      | error failure =>
          rw [worked] at missing
          exact absurd (worked.trans
            (congrArg Except.error (Option.some.inj missing))) (never entry _)

namespace ManagerCall

/-- Whether an operation works on the key and says so if it fails. -/
def usesKey : ManagerCall → Bool
  | hardwareState | thumbprint
  | publicKey _ | sign .. | signText .. | encrypt .. | encryptText .. | decrypt ..
  | decryptText .. | mint .. | requestConfirmation => true
  | _ => false

/-- The failure of an answer; answers that only say yes or no have none. -/
def failure? : (operation : ManagerCall) → operation.Answer → Option Failure
  | isPresent, _ | isPresentWithThumbprint _, _ | clear, _ | verify .., _
  | verifyText .., _ => none
  | generate, answer | thumbprint, answer | publicKey _, answer
  | signText .., answer | encryptText .., answer | decryptText .., answer
  | mint .., answer | requestConfirmation, answer => failureOf answer
  | sign .., answer | encrypt .., answer | decrypt .., answer => failureOf answer
  | creationDate, answer => failureOf answer
  | hardwareState, answer => failureOf answer
  | certificates, answer => failureOf answer

def refusal : ManagerCall → Option Failure
  | publicKey format =>
      if (PublicKeyFormat.ofName? format).isNone then
        some (.unknownExportFormat format) else none
  | decryptText _ text =>
    if (Base64.decode .unpadded text).isNone then
      some (.blockSizeMismatch Base64.refusal) else none
  | mint _ request => failureOf (RequestTarget.parse request.url)
  | _ => none

/-- An operation on the key is refused on its arguments whatever the slot is,
and else fails for want of a key exactly if the slot is empty. -/
theorem seen_usesKey {manager : Manager}
    (isPart : manager.provider.IsPart .standard) (supply : SoftwareStore.Supply)
    (slot : Option KeyEntry) {operation : ManagerCall}
    (uses : operation.usesKey = true) :
    ∃ answer, operation.seen manager supply slot = some answer ∧
      (∀ failure, operation.refusal = some failure →
        operation.failure? answer = some failure) ∧
      (operation.refusal = none →
        (operation.failure? answer = some (.keyMissing manager.keyAlias) ↔
          slot = none)) := by
  cases operation with
  | isPresent | isPresentWithThumbprint | generate | creationDate | clear
  | certificates | verify | verifyText => cases uses
  | hardwareState =>
      exact ⟨_, rfl, nofun, fun _ => manager.held_missing_iff fun entry => .ok _⟩
  | thumbprint =>
      exact ⟨_, rfl, nofun, fun _ =>
        manager.held_missing_iff manager.notMissing_thumbprintOf⟩
  | publicKey format =>
      refine ⟨_, rfl, ?_⟩
      rw [refusal]
      cases PublicKeyFormat.ofName? format with
      | none => exact ⟨fun failure same => same, nofun⟩
      | some known =>
          exact ⟨nofun, fun _ => manager.held_missing_iff fun entry => .ok _⟩
  | sign algorithm tape message =>
      exact ⟨_, rfl, nofun, fun _ =>
        manager.held_missing_iff
          (Manager.notMissing_signature isPart algorithm tape message)⟩
  | signText algorithm tape text =>
      exact ⟨_, rfl, nofun, fun _ => manager.held_missing_iff fun entry =>
        (Manager.notMissing_signature isPart algorithm tape
          (Utf8.encode text) entry).map _⟩
  | encrypt spec tape message =>
      exact ⟨_, rfl, nofun, fun _ =>
        manager.held_missing_iff
          (manager.notMissing_ciphertext spec tape message)⟩
  | encryptText spec tape text =>
      exact ⟨_, rfl, nofun, fun _ => manager.held_missing_iff fun entry =>
        (manager.notMissing_ciphertext spec tape (Utf8.encode text) entry).map _⟩
  | decrypt spec ciphertext =>
      exact ⟨_, rfl, nofun, fun _ =>
        manager.held_missing_iff (manager.notMissing_deciphered spec ciphertext)⟩
  | decryptText spec text =>
      refine ⟨_, rfl, ?_⟩
      rw [refusal]
      cases Base64.decode .unpadded text with
      | none => exact ⟨fun failure same => same, nofun⟩
      | some bytes =>
          exact ⟨nofun, fun _ => manager.held_missing_iff fun entry =>
            (manager.notMissing_deciphered spec bytes entry).bind
              fun message _ => Manager.notMissing_plaintext message⟩
  | mint tape request =>
      refine ⟨_, rfl, ?_⟩
      rw [refusal]
      cases RequestTarget.parse request.url with
      | error failure => exact ⟨fun failure same => same, nofun⟩
      | ok target =>
          exact ⟨nofun, fun _ =>
            manager.held_missing_iff
              (manager.notMissing_tokenOf tape request target)⟩
  | requestConfirmation =>
      exact ⟨_, rfl, nofun, fun _ =>
        manager.held_missing_iff manager.notMissing_confirmationOf⟩

end ManagerCall

end BoundKey
