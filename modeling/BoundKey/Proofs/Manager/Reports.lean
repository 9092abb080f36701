import BoundKey.Proofs.Challenge
import BoundKey.Proofs.Log
import BoundKey.Proofs.Manager.Missing

set_option autoImplicit false

/-!
How failures are logged. Whatever an operation of a manager fails with is
reported by one error, the last thing that is logged, and a warning stands
before it exactly if the store refused the entry. A check of a signature does
not fail and logs no error; what prevents it is told by a warning.
-/

namespace BoundKey

/-! ### Operations on the store -/

namespace Manager

variable {α : Type}

def watch (manager : Manager) : Watch StoreInterface where
  Fault := StoreFault
  fault?
    | .entry, some (.error fault) => some fault
    | _, _ => none
  warning := .entryNotReadable manager.keyAlias
  failure := .ofStore

theorem warns_ask (manager : Manager) (request : StoreCall)
    (faultless : ∀ answer, manager.watch.fault? request answer = none)
    (answered : request.Answer → Except StoreFault α) :
    manager.watch.Warns (ask request answered) := by
  have same : ask request answered =
      ExceptT.lift (Program.perform StoreInterface request) >>= fun answer =>
      Operation.ofExcept ((answered answer).mapError Failure.ofStore) := by
    change (.call request _ : Program StoreInterface (Except Failure α)) =
      .call request _
    congr 1
    funext answer
    cases answer with
    | none => rfl
    | some answer => rfl
  rw [same]
  exact (Watch.warns_perform faultless).bind fun answer => Watch.warns_ofExcept _

theorem warns_entry (manager : Manager) : manager.watch.Warns manager.entry := by
  constructor
  intro σ handler state
  change manager.watch.Account
    _ (failureIn (Program.run handler state (.call StoreCall.entry _)).1)
    (Program.signals handler state (.call StoreCall.entry _))
    (Program.transcript handler state (.call StoreCall.entry _))
  rw [Program.signals, Program.run_call, Program.transcript]
  rcases handler state .entry with ⟨answer, middle, early⟩
  cases answer with
  | none => exact Watch.account_call rfl rfl early rfl
  | some answer =>
      cases answer with
      | ok entry => exact Watch.account_call rfl rfl early rfl
      | error fault =>
          refine ⟨⟨[], rfl, ?_⟩, .inr ⟨fault, rfl, rfl⟩⟩
          change serious (early
            ++ [.log (.entryNotReadable manager.keyAlias fault)]) =
            serious (early ++ [])
              ++ [.entryNotReadable manager.keyAlias fault] ++ []
          simp only [serious_append, List.append_nil]
          rfl

/-! ### The operations of a manager -/

theorem account_perform (manager : Manager) {request : StoreCall}
    (faultless : ∀ answer, manager.watch.fault? request answer = none) {σ : Type}
    (handler : Program.Handler StoreInterface σ) (state : σ) :
    manager.watch.Account IsReport
      ((Program.run handler state request.perform).1.bind fun _ => none)
      (Program.signals handler state request.perform)
      (Program.transcript handler state request.perform) := by
  rw [StoreCall.perform, Program.perform, Program.signals, Program.run_call,
    Program.transcript]
  rcases handler state request with ⟨answer, middle, early⟩
  cases answer with
  | none => exact Watch.account_call rfl (faultless none) early rfl
  | some answer =>
      exact Watch.account_call rfl (faultless (some answer)) early rfl

theorem account_clear (manager : Manager) {σ : Type}
    (handler : Program.Handler StoreInterface σ) (state : σ) :
    manager.watch.Account IsReport
      ((Program.run handler state manager.clear).1.bind fun _ => none)
      (Program.signals handler state manager.clear)
      (Program.transcript handler state manager.clear) := by
  change manager.watch.Account
    _ ((Program.run handler state (.call StoreCall.clear _)).1.bind fun _ => none)
    (Program.signals handler state (.call StoreCall.clear _))
    (Program.transcript handler state (.call StoreCall.clear _))
  rw [Program.signals, Program.run_call, Program.transcript]
  rcases handler state .clear with ⟨answer, middle, early⟩
  cases answer with
  | none => exact Watch.account_call rfl rfl early rfl
  | some cleared =>
      exact Watch.account_call rfl rfl early (serious_log_of_light rfl [])

theorem reports_work (manager : Manager) (method : Method)
    (work : KeyEntry → Except Failure α) :
    manager.watch.Reports
      ((manager.entry >>= fun entry => Operation.ofExcept
        (work entry)).reporting method) :=
  Watch.Warns.reporting
    (manager.warns_entry.bind fun entry => Watch.warns_ofExcept (work entry))
    method

theorem reports_sign (manager : Manager) (algorithm : SigningAlgorithm)
    (tape : Tape) (message : Bytes) :
    manager.watch.Reports (manager.sign algorithm tape message) := by
  rw [sign]
  simp only [Operation.ofExcept_bind_ofExcept]
  exact manager.reports_work .sign (manager.signature algorithm tape message)

theorem reports_encrypt (manager : Manager) (spec : CipherSpec) (tape : Tape)
    (message : Bytes) :
    manager.watch.Reports (manager.encrypt spec tape message) := by
  rw [encrypt]
  simp only [Operation.ofExcept_bind_ofExcept]
  exact manager.reports_work .encrypt (manager.ciphertext spec tape message)

theorem reports_decrypt (manager : Manager) (spec : CipherSpec)
    (ciphertext : Bytes) :
    manager.watch.Reports (manager.decrypt spec ciphertext) := by
  rw [decrypt]
  simp only [Operation.ofExcept_bind_ofExcept]
  exact manager.reports_work .decrypt (manager.deciphered spec ciphertext)

/-- The text is decoded before the key is asked for, and the message after it is
decrypted; one of three parts fails. -/
theorem reports_decryptText (manager : Manager) (spec : CipherSpec)
    (text : String) : manager.watch.Reports (manager.decryptText spec text) := by
  refine Watch.Reports.bind (Watch.Warns.reporting (Watch.warns_ofExcept _) _)
    fun ciphertext => ?_
  refine Watch.Reports.bind (manager.reports_decrypt spec ciphertext)
    fun message => ?_
  exact Watch.Warns.reporting (Watch.warns_ofExcept _) _

theorem reports_generate (manager : Manager) :
    manager.watch.Reports manager.generate := by
  apply Watch.Accounts.marked
  have asked := manager.warns_ask (.generate manager.parameters) (fun _ => rfl) id
  refine Watch.Reports.bind (asked.reporting _) fun entry => ?_
  refine Watch.Reports.bind (Watch.accounts_log rfl rfl) fun _ => ?_
  exact Watch.Warns.reporting (Watch.warns_ofExcept _) _

theorem reports_publicKey (manager : Manager) (format : String) :
    manager.watch.Reports (manager.publicKey format) := by
  apply Watch.Warns.reporting
  cases PublicKeyFormat.ofName? format with
  | none => exact Watch.warns_ofExcept (.error (.unknownExportFormat format))
  | some known =>
      refine Watch.Warns.bind manager.warns_entry fun entry => ?_
      cases known with
      | subjectPublicKeyInfo => exact Watch.warns_ofExcept (.ok _)
      | jwk => exact Watch.warns_ofExcept (.ok _)

theorem reports_mint (manager : Manager) (tape : Tape) (request : Request) :
    manager.watch.Reports (manager.mint tape request) := by
  apply Watch.Warns.reporting
  refine Watch.Warns.bind (Watch.warns_ofExcept _) fun target => ?_
  refine Watch.Warns.bind manager.warns_entry fun entry => ?_
  refine Watch.Warns.bind (Watch.warns_ofExcept _) fun thumbprint => ?_
  exact Watch.Warns.bind (Watch.warns_ofExcept _) fun signer =>
    Watch.warns_ofExcept _

theorem reports_requestConfirmation (manager : Manager) :
    manager.watch.Reports manager.requestConfirmation := by
  apply Watch.Warns.reporting
  refine Watch.Warns.bind manager.warns_entry fun entry => ?_
  exact Watch.Warns.bind (Watch.warns_ofExcept _) fun thumbprint =>
    Watch.warns_ofExcept (.ok _)

end Manager

namespace ManagerCall

/-- Whether an operation checks a signature; its answer does not say what
prevented the check. -/
def isCheck : ManagerCall → Bool
  | verify .. | verifyText .. => true
  | _ => false

theorem account (manager : Manager) {operation : ManagerCall}
    (other : operation.isCheck = false) {σ : Type}
    (handler : Program.Handler StoreInterface σ) (state : σ) :
    manager.watch.Account IsReport
      ((Program.run handler state (operation.program manager)).1.bind
        operation.failure?)
      (Program.signals handler state (operation.program manager))
      (Program.transcript handler state (operation.program manager)) := by
  cases operation with
  | verify | verifyText => cases other
  | isPresent => exact manager.account_perform (fun _ => rfl) handler state
  | isPresentWithThumbprint text =>
      exact manager.account_perform (fun _ => rfl) handler state
  | clear => exact manager.account_clear handler state
  | generate => exact manager.reports_generate.account handler state
  | creationDate =>
      have asked := manager.warns_ask .creationDate (fun _ => rfl) id
      exact (asked.reporting .creationDate).account handler state
  | certificates =>
      have asked := manager.warns_ask .certificates (fun _ => rfl) id
      exact (asked.reporting .certificateChain).account handler state
  | hardwareState =>
      have described := manager.reports_work .hardwareState fun entry =>
        .ok (HardwareState.ofSecurity entry.security)
      exact described.account handler state
  | thumbprint =>
      exact (manager.reports_work .thumbprint manager.thumbprintOf).account
        handler state
  | publicKey format =>
      exact (manager.reports_publicKey format).account handler state
  | sign algorithm tape message =>
      exact (manager.reports_sign algorithm tape message).account handler state
  | signText algorithm tape text =>
      exact (Watch.Reports.bind (manager.reports_sign algorithm tape
        (Utf8.encode text)) fun signature =>
        Watch.reports_pure (Base64.encode .padded signature)).account
        handler state
  | encrypt spec tape message =>
      exact (manager.reports_encrypt spec tape message).account handler state
  | encryptText spec tape text =>
      exact (Watch.Reports.bind (manager.reports_encrypt spec tape
        (Utf8.encode text)) fun ciphertext =>
        Watch.reports_pure (Base64.encode .unpadded ciphertext)).account
        handler state
  | decrypt spec ciphertext =>
      exact (manager.reports_decrypt spec ciphertext).account handler state
  | decryptText spec text =>
      exact (manager.reports_decryptText spec text).account handler state
  | mint tape request =>
      exact (manager.reports_mint tape request).account handler state
  | requestConfirmation =>
      exact manager.reports_requestConfirmation.account handler state

end ManagerCall

/-! ### Checks of signatures -/

namespace Manager

/-- What is told of a check that does not come to an answer; an invalid
signature is an answer. -/
def checkWarnings : Option Failure → List LogEvent
  | none | some (.signingFailure .invalidSignature) => []
  | some failure => [.verificationFailed failure]

theorem checkWarnings_of_other {failure : Failure}
    (other : failure ≠ .signingFailure .invalidSignature) :
    checkWarnings (some failure) = [.verificationFailed failure] := by
  rw [checkWarnings]
  exact other

theorem warns_checkSignature (manager : Manager) (algorithm : SigningAlgorithm)
    (message signature : Bytes) :
    manager.watch.Warns (manager.checkSignature algorithm message signature) := by
  refine Watch.Warns.bind manager.warns_entry fun entry => ?_
  exact Watch.Warns.bind (Watch.warns_ofExcept _) fun signer =>
    Watch.warns_ofExcept _

theorem account_verify (manager : Manager) (algorithm : SigningAlgorithm)
    (message signature : Bytes) {σ : Type}
    (handler : Program.Handler StoreInterface σ) (state : σ) :
    manager.watch.Account (fun failed events => events = checkWarnings failed)
      (failureIn ((handler state .entry).1.map fun answer =>
        answer.mapError Failure.ofStore >>= manager.signatureCheck algorithm
          message signature))
      (Program.signals handler state (manager.verify algorithm message signature))
      (Program.transcript handler state
        (manager.verify algorithm message signature)) := by
  rw [← run_checkSignature]
  refine (manager.warns_checkSignature algorithm message signature).concluded
    rfl ?_ ?_ handler state
  · intro result
    split
    · exact .done _
    · exact .done _
    · exact .emit _ (.done _)
  · intro σ handler state result
    split
    · rfl
    · rfl
    · next failure other => exact (checkWarnings_of_other other).symm

end Manager

/-! ### Answers to challenges -/

namespace Challenge

def watch : Watch CertificateInterface where
  Fault := Empty
  fault? _ _ := none
  warning := nofun
  failure := nofun

theorem warns_demand (name value : String) : watch.Warns (demand name value) := by
  rw [demand]
  split
  · exact Watch.warns_ofExcept (.error _)
  · exact Watch.warns_ofExcept (.ok ())

theorem warns_tokenize (certificate : Certificate) (claims : ChallengeClaims) :
    watch.Warns (ExceptT.lift (Jws.tokenize (header certificate)
      claims fun message =>
      (CertificateCall.sign SigningAlgorithm.sha256.name message).perform)) := by
  have same :
      ExceptT.lift (Jws.tokenize (header certificate) claims fun message =>
      (CertificateCall.sign SigningAlgorithm.sha256.name message).perform) =
      ExceptT.lift (Program.perform CertificateInterface
        (.sign SigningAlgorithm.sha256.name
        (message certificate claims))) >>= fun answer => (Operation.ofExcept (.ok
          ((answer.map (Jws.token (header certificate) claims)).mapError
            .couldNotSign)) :
          Operation CertificateInterface (Except Jws.Fault String)) := by
    change (.call (CertificateCall.sign SigningAlgorithm.sha256.name
      (message certificate claims)) _ :
      Program CertificateInterface (Except Failure (Except Jws.Fault String))) =
      .call _ _
    congr 1
    funext answer
    cases answer with
    | none => rfl
    | some answer =>
        cases answer with
        | ok signature => rfl
        | error cause => rfl
  rw [same]
  exact (Watch.warns_perform fun _ => rfl).bind fun answer =>
    Watch.warns_ofExcept _

theorem warns_tokenFor (nonce audience : String) (now : Int) :
    watch.Warns (tokenFor nonce audience now) := by
  refine Watch.Warns.bind (warns_demand "nonce" nonce) fun _ => ?_
  refine Watch.Warns.bind (warns_demand "audience" audience) fun _ => ?_
  refine Watch.Warns.bind (Watch.warns_perform fun _ => rfl) fun encoded => ?_
  refine Watch.Warns.bind (Watch.warns_ofExcept _) fun certificate => ?_
  refine Watch.Warns.bind (Watch.accounts_log rfl rfl) fun _ => ?_
  exact Watch.Warns.bind (warns_tokenize certificate _) fun signed =>
    Watch.warns_ofExcept _

theorem reports_answer (nonce audience : String) (now : Int) :
    watch.Reports (answer nonce audience now) :=
  (warns_tokenFor nonce audience now).reporting .challengeResponse

end Challenge

/-! ### Failures are logged once -/

theorem SoftwareStore.light_handler (keyAlias : String) (supply : Supply)
    (slot : Option KeyEntry) (request : StoreCall) :
    serious (handler keyAlias supply slot request).2.2 = [] := by
  cases request with
  | generate parameters =>
      rw [handler]
      split
      · exact serious_log_of_light rfl []
      · rfl
  | entry =>
      cases slot with
      | none => rfl
      | some entry => rfl
  | _ => rfl

theorem ProvisionedStore.light_handler (store : ProvisionedStore)
    (request : StoreCall) : serious (handler store request).2.2 = [] := by
  cases request with
  | clear =>
      rw [handler]
      split
      · rfl
      · rfl
  | _ => rfl

structure Manager.LogsFailures {σ : Type} (manager : Manager)
    (handler : Program.Handler StoreInterface σ)
    (state : σ) : Prop where
  /-- A failure is reported once, by an error with its code and its wording, and
  nothing is reported without one. -/
  operation : ∀ operation : ManagerCall, operation.isCheck = false →
    manager.watch.Account IsReport
    ((Program.run handler state (operation.program manager)).1.bind
      operation.failure?)
    (Program.signals handler state (operation.program manager))
    (Program.transcript handler state (operation.program manager))
  /-- A check logs no error; it is told why it did not come to an answer. -/
  verify : ∀ algorithm message signature,
    manager.watch.Account (fun failed events => events = checkWarnings failed)
    (failureIn ((handler state .entry).1.map fun answer =>
      answer.mapError Failure.ofStore >>= manager.signatureCheck algorithm
        message signature))
    (Program.signals handler state (manager.verify algorithm message signature))
    (Program.transcript handler state
      (manager.verify algorithm message signature))
  verifyText : ∀ algorithm text signature,
    match Base64.decode .padded signature with
    | none =>
        Program.run handler state (manager.verifyText algorithm text signature) =
        (some false, state, [.log .signatureNotBase64])
    | some bytes => manager.verifyText algorithm text signature =
        manager.verify algorithm (Utf8.encode text) bytes

/-- Every failure of an operation of a manager, over any store, and of an answer
to a challenge, over any device, is logged exactly once. The stores in memory
add no warnings and no errors of their own. -/
theorem failures_logged_once {σ τ : Type} (manager : Manager)
    (handler : Program.Handler StoreInterface σ) (state : σ)
    (device : Program.Handler CertificateInterface τ) (held : τ) :
    manager.LogsFailures handler state ∧
    (∀ nonce audience now, Challenge.watch.Account IsReport
      (failureIn (Program.run device held
        (Challenge.answer nonce audience now).run).1)
      (Program.signals device held (Challenge.answer nonce audience now).run)
      (Program.transcript device held
        (Challenge.answer nonce audience now).run)) ∧
    (∀ supply slot (operation : ManagerCall), serious
      ((Program.transcript (SoftwareStore.handler manager.keyAlias supply) slot
        (operation.program manager)).flatMap Exchange.signals) = []) ∧
    ∀ store (operation : ManagerCall), serious
      ((Program.transcript ProvisionedStore.handler store
        (operation.program manager)).flatMap Exchange.signals) = [] := by
  refine ⟨⟨?_, ?_, ?_⟩, ?_, ?_, ?_⟩
  · intro operation other
    exact operation.account manager other handler state
  · intro algorithm message signature
    exact manager.account_verify algorithm message signature handler state
  · intro algorithm text signature
    rw [Manager.verifyText]
    split
    · next undecoded => rw [undecoded]; rfl
    · next bytes decoded => rw [decoded]
  · intro nonce audience now
    exact (Challenge.reports_answer nonce audience now).account device held
  · intro supply slot operation
    exact Program.serious_transcript
      (SoftwareStore.light_handler manager.keyAlias supply) slot _
  · intro store operation
    exact Program.serious_transcript ProvisionedStore.light_handler store _

end BoundKey
