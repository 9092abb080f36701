import BoundKey.Manager.Usage
import BoundKey.Proofs.Manager.Entry
import BoundKey.Proofs.Rsa.Pkcs1
import BoundKey.Proofs.Text.Base64

set_option autoImplicit false

/-!
Signatures without random choices. For every algorithm but the probabilistic
ones, a byte string is accepted as the signature of a message exactly if signing
the message yields it, and a text exactly if it is the text that signing yields;
where there is no signature to be had, none is accepted.
-/

namespace BoundKey

def SigningAlgorithm.isProbabilistic : SigningAlgorithm → Bool
  | sha256Pss | sha384Pss | sha512Pss => true
  | md5 | none | sha256 | sha384 | sha512 => false

namespace Manager

variable {σ : Type}

/-! ### Signers -/

theorem signer_standard {manager : Manager}
    (standard : manager.provider = .standard) (algorithm : SigningAlgorithm) :
    manager.signer algorithm = match algorithm.signer? with
      | some signer => .ok signer
      | none =>
          .error (.algorithmUnsupported
            (ProviderFault.missingSigner algorithm.name).message) := by
  rw [Manager.signer, standard]
  cases algorithm with
  | _ => rfl

def IsExact (signer : Signer) (key : Rsa.PrivateKey) : Prop :=
  ∀ tape message signature,
    signer.verify message signature key.publicKey = .ok () ↔
      signer.sign tape message key = .ok signature

theorem answer_eq_ok_iff {valid : Bool} :
    Signer.answer valid = .ok () ↔ valid = true := by
  cases valid with
  | false => exact ⟨nofun, nofun⟩
  | true => exact ⟨fun _ => rfl, fun _ => rfl⟩

theorem isExact_raw {key : Rsa.PrivateKey} (sound : key.IsSound) :
    IsExact .raw key := by
  intro tape message signature
  change Signer.answer _ = _ ↔ Except.mapError _ _ = _
  rw [answer_eq_ok_iff, mapError_eq_ok_iff, Rsa.Pkcs1.verify_iff_sign sound]

theorem isExact_pkcs1 {key : Rsa.PrivateKey} (sound : key.IsSound)
    (digest : Digest) : IsExact (.pkcs1 digest) key := by
  intro tape message signature
  change Signer.answer _ = _ ↔ Except.mapError _ _ = _
  rw [answer_eq_ok_iff, mapError_eq_ok_iff, Rsa.Pkcs1.verify_iff_sign sound]

theorem isExact_signer {algorithm : SigningAlgorithm}
    (plain : algorithm.isProbabilistic = false) {signer : Signer}
    (found : algorithm.signer? = some signer) {key : Rsa.PrivateKey}
    (sound : key.IsSound) : IsExact signer key := by
  cases algorithm with
  | md5 => cases found
  | none => cases found; exact isExact_raw sound
  | sha256 => cases found; exact isExact_pkcs1 sound .sha256
  | sha384 => cases found; exact isExact_pkcs1 sound .sha384
  | sha512 => cases found; exact isExact_pkcs1 sound .sha512
  | sha256Pss | sha384Pss | sha512Pss => cases plain

/-! ### Runs -/

def signature (manager : Manager) (algorithm : SigningAlgorithm) (tape : Tape)
    (message : Bytes) (entry : KeyEntry) : Except Failure Bytes := do
  let signer ← manager.signer algorithm
  (signer.sign tape message entry.privateKey).mapError .ofSigner

def signatureCheck (manager : Manager) (algorithm : SigningAlgorithm)
    (message signature : Bytes) (entry : KeyEntry) :
    Except Failure Unit := do
  let signer ← manager.signer algorithm
  (signer.verify message signature entry.publicKey).mapError .ofSigner

theorem run_sign (handler : Program.Handler StoreInterface σ) (state : σ)
    (manager : Manager) (algorithm : SigningAlgorithm) (tape : Tape)
    (message : Bytes) :
    (Program.run handler state (manager.sign algorithm tape message).run).1 =
      ((handler state .entry).1).map fun answer =>
        answer.mapError Failure.ofStore >>= manager.signature algorithm
          tape message := by
  rw [Manager.sign, (Operation.run_reporting handler state .sign _).1]
  simp only [Operation.ofExcept_bind_ofExcept]
  exact run_entry_bind handler state manager
    (manager.signature algorithm tape message)

theorem run_checkSignature (handler : Program.Handler StoreInterface σ)
    (state : σ) (manager : Manager)
    (algorithm : SigningAlgorithm) (message signature : Bytes) :
    (Program.run handler state
      (manager.checkSignature algorithm message signature).run).1 =
      ((handler state .entry).1).map fun answer =>
        answer.mapError Failure.ofStore >>= manager.signatureCheck algorithm
          message signature := by
  rw [Manager.checkSignature]
  simp only [Operation.ofExcept_bind_ofExcept]
  exact run_entry_bind handler state manager
    (manager.signatureCheck algorithm message signature)

theorem run_verify (handler : Program.Handler StoreInterface σ) (state : σ)
    (manager : Manager) (algorithm : SigningAlgorithm)
    (message signature : Bytes) :
    (Program.run handler state (manager.verify algorithm message signature)).1 =
      some true ↔
      (Program.run handler state
        (manager.checkSignature algorithm message signature).run).1 =
        some (.ok ()) := by
  rw [Manager.verify, Program.run_bind]
  rcases Program.run handler state
    (manager.checkSignature algorithm message signature).run with ⟨value,
      middle, early⟩
  cases value with
  | none => exact ⟨nofun, nofun⟩
  | some result =>
      cases result with
      | ok value => exact ⟨fun _ => rfl, fun _ => rfl⟩
      | error failure =>
          refine ⟨?_, nofun⟩
          intro valid
          dsimp only at valid
          split at valid
          · next same => cases same
          · cases valid
          · cases valid

theorem run_signText (handler : Program.Handler StoreInterface σ) (state : σ)
    (manager : Manager) (algorithm : SigningAlgorithm) (tape : Tape)
    (text signature : String) :
    (Program.run handler state (manager.signText algorithm tape text).run).1 =
      some (.ok signature) ↔
      ∃ bytes,
        (Program.run handler state
          (manager.sign algorithm tape (Utf8.encode text)).run).1 =
          some (.ok bytes) ∧
        signature = Base64.encode .padded bytes := by
  change (Program.run handler state
    ((manager.sign algorithm tape (Utf8.encode text)).run >>= _)).1 = _ ↔ _
  rw [Program.run_bind]
  rcases Program.run handler state
    (manager.sign algorithm tape (Utf8.encode text)).run with ⟨value,
      middle, early⟩
  cases value with
  | none =>
      constructor
      · exact nofun
      · rintro ⟨bytes, same, _⟩
        cases same
  | some result =>
      cases result with
      | error failure =>
          constructor
          · exact nofun
          · rintro ⟨bytes, same, _⟩
            cases same
      | ok bytes =>
          constructor
          · intro same
            cases same
            exact ⟨bytes, rfl, rfl⟩
          · rintro ⟨other, same, written⟩
            cases same
            rw [written]
            rfl

/-! ### Agreement -/

/-- On one answer of the store, a signature passes the check exactly if signing
yields it. -/
theorem signatureCheck_iff {manager : Manager}
    (standard : manager.provider = .standard) {algorithm : SigningAlgorithm}
    (plain : algorithm.isProbabilistic = false) {entry : KeyEntry}
    (sound : entry.privateKey.IsSound) (tape : Tape)
    (message signature : Bytes) :
    manager.signatureCheck algorithm message signature entry = .ok () ↔
      manager.signature algorithm tape message entry = .ok signature := by
  rw [signatureCheck, Manager.signature, signer_standard standard]
  cases found : algorithm.signer? with
  | none => exact ⟨nofun, nofun⟩
  | some signer =>
      change Except.mapError _ _ = _ ↔ Except.mapError _ _ = _
      rw [mapError_eq_ok_iff, mapError_eq_ok_iff]
      exact isExact_signer plain found sound tape message signature

theorem verify_iff_sign_bytes {handler : Program.Handler StoreInterface σ}
    {state : σ} {manager : Manager} (standard : manager.provider = .standard)
    (sound : ∀ entry, (handler state .entry).1 = some (.ok entry) →
      entry.privateKey.IsSound)
    {algorithm : SigningAlgorithm}
    (plain : algorithm.isProbabilistic = false) (tape : Tape)
    (message signature : Bytes) :
    (Program.run handler state (manager.verify algorithm message signature)).1 =
      some true ↔
      (Program.run handler state (manager.sign algorithm tape message).run).1 =
        some (.ok signature) := by
  rw [run_verify, run_checkSignature, run_sign]
  cases answered : (handler state .entry).1 with
  | none => exact ⟨nofun, nofun⟩
  | some answer =>
      rw [Option.map_some, Option.map_some, Option.some.injEq, Option.some.injEq]
      cases answer with
      | error fault => exact ⟨nofun, nofun⟩
      | ok entry =>
          exact signatureCheck_iff standard plain (sound entry answered) tape
            message signature

/-- Of a message exactly the signature that signing yields is valid, both as
bytes and as text: there is no second byte string and no second spelling, and
nothing is valid where signing fails. -/
theorem valid_iff_signed {handler : Program.Handler StoreInterface σ}
    {state : σ} {manager : Manager} (standard : manager.provider = .standard)
    (sound : ∀ entry, (handler state .entry).1 = some (.ok entry) →
      entry.privateKey.IsSound)
    {algorithm : SigningAlgorithm} (plain : algorithm.isProbabilistic = false)
    (tape : Tape) : (∀ message signature : Bytes,
      (Program.run handler state
        (manager.verify algorithm message signature)).1 = some true ↔
        (Program.run handler state
          (manager.sign algorithm tape message).run).1 = some (.ok signature)) ∧
    (∀ text signature : String,
      (Program.run handler state
        (manager.verifyText algorithm text signature)).1 = some true ↔
        (Program.run handler state
          (manager.signText algorithm tape text).run).1 =
          some (.ok signature)) := by
  have onBytes := verify_iff_sign_bytes standard sound plain tape
  refine ⟨onBytes, ?_⟩
  intro text signature
  rw [run_signText, Manager.verifyText]
  cases decoded : Base64.decode .padded signature with
  | none =>
      constructor
      · exact nofun
      · rintro ⟨bytes, _, written⟩
        rw [written, Base64.decode_encode] at decoded
        cases decoded
  | some bytes =>
      constructor
      · intro valid
        exact ⟨bytes, (onBytes (Utf8.encode text) bytes).1 valid,
          Base64.decode_eq_some_iff.1 decoded⟩
      · rintro ⟨other, signed, written⟩
        rw [written, Base64.decode_encode] at decoded
        cases decoded
        exact (onBytes (Utf8.encode text) bytes).2 signed

theorem valid_iff_signed_mersenne :
    Rsa.mersenneKey.IsSound ∧ SigningAlgorithm.sha384.isProbabilistic = false ∧
    (∀ message signature : Bytes,
      (Program.run ProvisionedStore.handler mersenneStore
        (standardManager.verify .sha384 message signature)).1 =
          some true ↔
        (Program.run ProvisionedStore.handler mersenneStore
          (standardManager.sign .sha384 (.ofSeed 0) message).run).1 =
          some (.ok signature)) ∧
    (∀ text signature : String,
      (Program.run ProvisionedStore.handler mersenneStore
        (standardManager.verifyText .sha384 text signature)).1 =
          some true ↔
        (Program.run ProvisionedStore.handler mersenneStore
          (standardManager.signText .sha384 (.ofSeed 0) text).run).1 =
          some (.ok signature)) := by
  refine ⟨Rsa.mersenneKey_isSound, rfl, ?_⟩
  refine valid_iff_signed rfl ?_ rfl (.ofSeed 0)
  intro entry held
  have same : mersenneEntry = entry := Except.ok.inj (Option.some.inj held)
  rw [← same]
  exact Rsa.mersenneKey_isSound

end Manager

end BoundKey
