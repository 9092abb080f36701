import BoundKey.Manager.Lifecycle
import BoundKey.Proofs.Manager.SignedRequest

set_option autoImplicit false

/-!
What the operations on a key come to. Each of them asks the store for the entry
and does some work on it that takes no further calls, so over every store its
value is what the work yields on the one answer, and the store is left as the
one call leaves it.
-/

namespace BoundKey.Manager

variable {α β : Type}

/-- An operation that asks for the entry and then does some work on it, and
nothing else that counts. -/
structure Works (operation : StoreOperation α)
    (work : KeyEntry → Except Failure α) : Prop where
  value : ∀ {σ : Type} (handler : Program.Handler StoreInterface σ) (state : σ),
    (Program.run handler state operation.run).1 =
      ((handler state .entry).1).map fun answer =>
        answer.mapError Failure.ofStore >>= work
  left : ∀ {σ : Type} (handler : Program.Handler StoreInterface σ) (state : σ),
    (Program.run handler state operation.run).2.1 = (handler state .entry).2.1

theorem works_entry (manager : Manager) (work : KeyEntry → Except Failure α) :
    Works (manager.entry >>= fun entry => Operation.ofExcept (work entry))
      work := by
  refine ⟨fun handler state => run_entry_bind handler state manager work, ?_⟩
  intro σ handler state
  change (Program.run handler state (.call StoreCall.entry _)).2.1 = _
  rw [Program.run_call]
  dsimp only
  cases (handler state .entry).1 with
  | none => rfl
  | some answer =>
      cases answer with
      | ok entry => rfl
      | error fault => rfl

theorem Works.reporting {operation : StoreOperation α}
    {work : KeyEntry → Except Failure α}
    (works : Works operation work) (method : Method) :
    Works (operation.reporting method) work := by
  constructor
  · intro σ handler state
    rw [(Operation.run_reporting handler state method operation).1, works.value]
  · intro σ handler state
    rw [(Operation.run_reporting handler state method operation).2, works.left]

theorem Works.further {operation : StoreOperation α}
    {work : KeyEntry → Except Failure α} (works : Works operation work)
    {next : α → StoreOperation β} {more : α → Except Failure β}
    (quiet : ∀ value, (next value).run.Quiet)
    (yields : ∀ value, (next value).run.silent = some (more value)) :
    Works (operation >>= next) fun entry => work entry >>= more := by
  constructor
  · intro σ handler state
    rw [(Operation.run_bind_of_quiet handler state operation quiet).1,
      works.value]
    cases (handler state .entry).1 with
    | none => rfl
    | some answer =>
        cases answer with
        | error fault => rfl
        | ok entry =>
            have worked :
                (some (Except.ok entry : Except StoreFault KeyEntry)).map
                (fun answer => answer.mapError Failure.ofStore >>= work) =
                some (work entry) := rfl
            rw [worked, Option.map_some]
            change _ = some (work entry >>= more)
            cases work entry with
            | error failure => rfl
            | ok value => exact yields value
  · intro σ handler state
    rw [(Operation.run_bind_of_quiet handler state operation quiet).2, works.left]

theorem Works.changed {operation : StoreOperation α}
    {work : KeyEntry → Except Failure α} (works : Works operation work)
    (change : α → β) :
    Works (operation >>= fun value => pure (change value)) fun entry =>
      (work entry).map change := by
  have bound : Works (operation >>= fun value => pure (change value))
      fun entry => work entry >>= fun value => .ok (change value) :=
    works.further (fun value => .done _) fun value => rfl
  have same :
      (fun entry => work entry >>= fun value => Except.ok (change value)) =
      fun entry => (work entry).map change := by
    funext entry
    cases work entry with
    | ok value => rfl
    | error failure => rfl
  rw [← same]
  exact bound

/-! ### Signing and verifying -/

theorem works_sign (manager : Manager) (algorithm : SigningAlgorithm)
    (tape : Tape) (message : Bytes) :
    Works (manager.sign algorithm tape message)
      (manager.signature algorithm tape message) := by
  apply Works.reporting
  simp only [Operation.ofExcept_bind_ofExcept]
  exact works_entry manager (manager.signature algorithm tape message)

theorem works_signText (manager : Manager) (algorithm : SigningAlgorithm)
    (tape : Tape) (text : String) :
    Works (manager.signText algorithm tape text) fun entry =>
      (manager.signature algorithm tape (Utf8.encode text) entry).map
        (Base64.encode .padded) :=
  (manager.works_sign algorithm tape (Utf8.encode text)).changed
    (Base64.encode .padded)

theorem works_checkSignature (manager : Manager) (algorithm : SigningAlgorithm)
    (message signature : Bytes) :
    Works (manager.checkSignature algorithm message signature)
      (manager.signatureCheck algorithm message signature) := by
  rw [checkSignature]
  simp only [Operation.ofExcept_bind_ofExcept]
  exact works_entry manager (manager.signatureCheck algorithm message signature)

theorem run_verify_isOk {σ : Type} (handler : Program.Handler StoreInterface σ)
    (state : σ) (manager : Manager)
    (algorithm : SigningAlgorithm) (message signature : Bytes) :
    (Program.run handler state (manager.verify algorithm message signature)).1 =
      ((Program.run handler state
        (manager.checkSignature algorithm message signature).run).1).map
        Except.isOk ∧
    (Program.run handler state (manager.verify algorithm message signature)).2.1 =
      (Program.run handler state
        (manager.checkSignature algorithm message signature).run).2.1 := by
  rw [verify, Program.run_bind]
  rcases Program.run handler state
    (manager.checkSignature algorithm message signature).run with ⟨value,
      middle, early⟩
  cases value with
  | none => exact ⟨rfl, rfl⟩
  | some result =>
      cases result with
      | ok value => exact ⟨rfl, rfl⟩
      | error failure =>
          dsimp only
          split
          · next same => cases same
          · exact ⟨rfl, rfl⟩
          · exact ⟨rfl, rfl⟩

/-! ### Encrypting and decrypting -/

def ciphertext (manager : Manager) (spec : CipherSpec) (tape : Tape)
    (message : Bytes) (entry : KeyEntry) : Except Failure Bytes := do
  let cipher ← manager.cipher spec.algorithm
  (cipher.encrypt tape message entry.publicKey spec.parameters).mapError .ofCipher

def deciphered (manager : Manager) (spec : CipherSpec) (ciphertext : Bytes)
    (entry : KeyEntry) : Except Failure Bytes := do
  let cipher ← manager.cipher spec.algorithm
  (cipher.decrypt ciphertext entry.privateKey spec.parameters).mapError .ofCipher

theorem works_encrypt (manager : Manager) (spec : CipherSpec) (tape : Tape)
    (message : Bytes) :
    Works (manager.encrypt spec tape message)
      (manager.ciphertext spec tape message) := by
  apply Works.reporting
  simp only [Operation.ofExcept_bind_ofExcept]
  exact works_entry manager (manager.ciphertext spec tape message)

theorem works_encryptText (manager : Manager) (spec : CipherSpec) (tape : Tape)
    (text : String) : Works (manager.encryptText spec tape text) fun entry =>
      (manager.ciphertext spec tape (Utf8.encode text) entry).map
        (Base64.encode .unpadded) :=
  (manager.works_encrypt spec tape (Utf8.encode text)).changed
    (Base64.encode .unpadded)

theorem works_decrypt (manager : Manager) (spec : CipherSpec)
    (ciphertext : Bytes) :
    Works (manager.decrypt spec ciphertext)
      (manager.deciphered spec ciphertext) := by
  apply Works.reporting
  simp only [Operation.ofExcept_bind_ofExcept]
  exact works_entry manager (manager.deciphered spec ciphertext)

theorem works_decryptText (manager : Manager) (spec : CipherSpec)
    {text : String} {bytes : Bytes}
    (decoded : Base64.decode .unpadded text = some bytes) :
    Works (manager.decryptText spec text) fun entry =>
      manager.deciphered spec bytes entry >>= plaintext := by
  have read : ciphertextBytes text = .ok bytes := by
    rw [ciphertextBytes, decoded]
  rw [decryptText, read]
  apply (manager.works_decrypt spec bytes).further
  · exact fun message => Operation.quiet_reporting _ (Operation.quiet_ofExcept _)
  · intro message
    cases plaintext message with
    | ok text => rfl
    | error failure => rfl

/-! ### The public half -/

def exported (format : PublicKeyFormat) (entry : KeyEntry) : String :=
  match format with
  | .subjectPublicKeyInfo => Base64.encode .padded entry.publicKey.toDer
  | .jwk => (Jwk.ofPublicKey entry.publicKey).toJson

def confirmationOf (manager : Manager) (entry : KeyEntry) :
    Except Failure String := do
  let thumbprint ← manager.thumbprintOf entry
  .ok (Jws.segment (Json.Value.object [("kid", .string thumbprint)]).render)

theorem works_publicKey (manager : Manager) {name : String}
    {format : PublicKeyFormat}
    (known : PublicKeyFormat.ofName? name = some format) :
    Works (manager.publicKey name) fun entry => .ok (exported format entry) := by
  apply Works.reporting
  rw [known]
  cases format with
  | subjectPublicKeyInfo =>
      exact works_entry manager fun entry =>
        .ok (exported .subjectPublicKeyInfo entry)
  | jwk => exact works_entry manager fun entry => .ok (exported .jwk entry)

theorem works_hardwareState (manager : Manager) :
    Works manager.hardwareState fun entry => .ok (.ofSecurity entry.security) :=
  Works.reporting (works_entry manager fun entry =>
    .ok (HardwareState.ofSecurity entry.security)) .hardwareState

theorem works_thumbprint (manager : Manager) :
    Works manager.thumbprint manager.thumbprintOf :=
  Works.reporting (works_entry manager manager.thumbprintOf) .thumbprint

theorem works_requestConfirmation (manager : Manager) :
    Works manager.requestConfirmation manager.confirmationOf := by
  apply Works.reporting
  have same : (manager.entry >>= fun entry =>
      Operation.ofExcept (manager.thumbprintOf entry) >>= fun thumbprint =>
      pure (Jws.segment
        (Json.Value.object [("kid", .string thumbprint)]).render) :
        StoreOperation String) =
      manager.entry >>= fun entry => Operation.ofExcept
        (manager.confirmationOf entry) := by
    congr 1
    funext entry
    rw [confirmationOf]
    cases manager.thumbprintOf entry with
    | ok thumbprint => rfl
    | error failure => rfl
  rw [same]
  exact works_entry manager manager.confirmationOf

theorem works_mint (manager : Manager) (tape : Tape) {request : Request}
    {target : RequestTarget}
    (parsed : RequestTarget.parse request.url = .ok target) :
    Works (manager.mint tape request) (manager.tokenOf tape request target) := by
  apply Works.reporting
  rw [tokenFor_of_parse parsed]
  exact works_entry manager (manager.tokenOf tape request target)

end BoundKey.Manager
