import BoundKey.Manager.Lifecycle
import BoundKey.Manager.Request
import BoundKey.Manager.Usage
import BoundKey.Proofs.Manager.SignedRequest

set_option autoImplicit false

/-!
The operations of a manager as one type. Each calls on the store exactly once,
whatever the answer, except those that are refused on their arguments, which do
not call on it at all.
-/

namespace BoundKey

inductive ManagerCall where
  | isPresent
  | isPresentWithThumbprint (thumbprint : String)
  | generate
  | creationDate
  | clear
  | hardwareState
  | thumbprint
  | certificates
  | publicKey (format : String)
  | sign (algorithm : SigningAlgorithm) (tape : Tape) (message : Bytes)
  | signText (algorithm : SigningAlgorithm) (tape : Tape) (text : String)
  | verify (algorithm : SigningAlgorithm) (message signature : Bytes)
  | verifyText (algorithm : SigningAlgorithm) (text signature : String)
  | encrypt (spec : CipherSpec) (tape : Tape) (message : Bytes)
  | encryptText (spec : CipherSpec) (tape : Tape) (text : String)
  | decrypt (spec : CipherSpec) (ciphertext : Bytes)
  | decryptText (spec : CipherSpec) (text : String)
  | mint (tape : Tape) (request : Request)
  | requestConfirmation

/-! ### Generation -/

namespace Manager

variable {σ : Type}

private def reportGenerated (manager : Manager) (entry : KeyEntry) :
    StoreOperation String := do
  Operation.log (.keyGenerated manager.keyAlias)
  (Operation.ofExcept (manager.thumbprintOf entry)).reporting .generateKey

private theorem quiet_reportGenerated (manager : Manager) (entry : KeyEntry) :
    (manager.reportGenerated entry).run.Quiet := by
  apply Operation.quiet_bind (Program.Quiet.bind (Program.quiet_log _) fun _ =>
    .done _)
  intro _
  exact Operation.quiet_reporting _ (Operation.quiet_ofExcept _)

private theorem silent_reportGenerated (manager : Manager) (entry : KeyEntry) :
    (manager.reportGenerated entry).run.silent =
      some (manager.thumbprintOf entry) := by
  change ((Operation.ofExcept (manager.thumbprintOf entry)).reporting
    .generateKey : StoreOperation String).run.silent = _
  cases manager.thumbprintOf entry with
  | ok thumbprint => rfl
  | error failure => rfl

theorem run_generate (handler : Program.Handler StoreInterface σ) (state : σ)
    (manager : Manager) : (Program.run handler state manager.generate.run).1 =
      ((handler state (.generate manager.parameters)).1).map (fun answer =>
        answer.mapError Failure.ofStore >>= manager.thumbprintOf) ∧
    (Program.run handler state manager.generate.run).2.1 =
      (handler state (.generate manager.parameters)).2.1 := by
  obtain ⟨ensuredValue, ensuredState⟩ :=
    Program.run_ensuring handler state (.mark .generationEnd)
    ((ask (.generate manager.parameters) id).reporting .generateKey >>=
      manager.reportGenerated).run
  obtain ⟨boundValue, boundState⟩ := Operation.run_bind_of_quiet handler state
    ((ask (.generate manager.parameters) id).reporting .generateKey)
    manager.quiet_reportGenerated
  obtain ⟨reportedValue, reportedState⟩ :=
    Operation.run_reporting handler state .generateKey
    (ask (.generate manager.parameters) id)
  obtain ⟨askedValue, askedState⟩ :=
    run_ask handler state (.generate manager.parameters) id
  constructor
  · refine (ensuredValue.trans boundValue).trans ?_
    rw [reportedValue, askedValue]
    cases (handler state (.generate manager.parameters)).1 with
    | none => rfl
    | some answer =>
        cases answer with
        | error fault => rfl
        | ok entry => exact manager.silent_reportGenerated entry
  · refine (ensuredState.trans boundState).trans ?_
    rw [reportedState, askedState]

end Manager

namespace ManagerCall

abbrev Answer : ManagerCall → Type
  | isPresent | isPresentWithThumbprint _ | clear
  | verify .. | verifyText .. => Bool
  | generate | thumbprint
  | publicKey _ | signText .. | encryptText .. | decryptText .. | mint ..
  | requestConfirmation => Except Failure String
  | sign .. | encrypt .. | decrypt .. => Except Failure Bytes
  | creationDate => Except Failure (Option Int)
  | hardwareState => Except Failure HardwareState
  | certificates => Except Failure (List Certificate)

def program (manager : Manager) :
    (operation : ManagerCall) → Program StoreInterface operation.Answer
  | isPresent => Manager.isPresent
  | isPresentWithThumbprint text => Manager.isPresentWithThumbprint text
  | generate => manager.generate.run
  | creationDate => Manager.creationDate.run
  | clear => manager.clear
  | hardwareState => manager.hardwareState.run
  | thumbprint => manager.thumbprint.run
  | certificates => Manager.certificates.run
  | publicKey format => (manager.publicKey format).run
  | sign algorithm tape message => (manager.sign algorithm tape message).run
  | signText algorithm tape text => (manager.signText algorithm tape text).run
  | verify algorithm message signature =>
      manager.verify algorithm message signature
  | verifyText algorithm text signature =>
      manager.verifyText algorithm text signature
  | encrypt spec tape message => (manager.encrypt spec tape message).run
  | encryptText spec tape text => (manager.encryptText spec tape text).run
  | decrypt spec ciphertext => (manager.decrypt spec ciphertext).run
  | decryptText spec text => (manager.decryptText spec text).run
  | mint tape request => (manager.mint tape request).run
  | requestConfirmation => manager.requestConfirmation.run

/-- Whether an operation is refused on its arguments: an unknown format, a text
that is not base 64, a URL that cannot be read. -/
def isRefused : ManagerCall → Bool
  | publicKey format => (PublicKeyFormat.ofName? format).isNone
  | verifyText _ _ signature => (Base64.decode .padded signature).isNone
  | decryptText _ text => (Base64.decode .unpadded text).isNone
  | mint _ request => (RequestTarget.parse request.url).toOption.isNone
  | _ => false

/-! ### One call on the store -/

private theorem once_verify (manager : Manager) (algorithm : SigningAlgorithm)
    (message signature : Bytes) :
    (manager.verify algorithm message signature).Once := by
  apply Program.Once.bind (Manager.once_entry_with manager
    (manager.signer algorithm) _)
  intro result
  split
  · exact .done _
  · exact .done _
  · exact .emit _ (.done _)

private theorem once_sign (manager : Manager) (algorithm : SigningAlgorithm)
    (tape : Tape) (message : Bytes) :
    (manager.sign algorithm tape message).run.Once :=
  Operation.once_reporting _ (Manager.once_entry_with manager
    (manager.signer algorithm) _)

private theorem once_encrypt (manager : Manager) (spec : CipherSpec)
    (tape : Tape) (message : Bytes) :
    (manager.encrypt spec tape message).run.Once :=
  Operation.once_reporting _ (Manager.once_entry_with manager
    (manager.cipher spec.algorithm) _)

private theorem once_decrypt (manager : Manager) (spec : CipherSpec)
    (ciphertext : Bytes) : (manager.decrypt spec ciphertext).run.Once :=
  Operation.once_reporting _ (Manager.once_entry_with manager
    (manager.cipher spec.algorithm) _)

private theorem once_generate (manager : Manager) :
    manager.generate.run.Once := by
  refine .emit _ (Program.Once.ensuring _ ?_)
  exact Operation.once_bind (Operation.once_reporting
    _ (Manager.once_ask (.generate manager.parameters) id))
    manager.quiet_reportGenerated

private theorem once_publicKey (manager : Manager) {name : String}
    {format : PublicKeyFormat}
    (known : PublicKeyFormat.ofName? name = some format) :
    (manager.publicKey name).run.Once := by
  apply Operation.once_reporting
  rw [known]
  apply Manager.once_entry_bind manager
  intro entry
  cases format with
  | subjectPublicKeyInfo => exact .done _
  | jwk => exact .done _

private theorem once_decryptText (manager : Manager) (spec : CipherSpec)
    {text : String} {bytes : Bytes}
    (decoded : Base64.decode .unpadded text = some bytes) :
    (manager.decryptText spec text).run.Once := by
  have read : Manager.ciphertextBytes text = .ok bytes := by
    rw [Manager.ciphertextBytes, decoded]
  rw [Manager.decryptText, read]
  apply Operation.once_bind (once_decrypt manager spec bytes)
  intro message
  exact Operation.quiet_reporting _ (Operation.quiet_ofExcept _)

private theorem once_mint (manager : Manager) (tape : Tape) {request : Request}
    {target : RequestTarget}
    (parsed : RequestTarget.parse request.url = .ok target) :
    (manager.mint tape request).run.Once := by
  apply Operation.once_reporting
  rw [Manager.tokenFor_of_parse parsed]
  exact Manager.once_entry_bind manager fun entry => Operation.quiet_ofExcept _

theorem program_once (manager : Manager) {operation : ManagerCall}
    (accepted : operation.isRefused = false) :
    (operation.program manager).Once := by
  cases operation with
  | isPresent => exact Program.once_perform StoreInterface _
  | isPresentWithThumbprint text => exact Program.once_perform StoreInterface _
  | generate => exact once_generate manager
  | creationDate =>
      exact Operation.once_reporting _ (Manager.once_ask .creationDate id)
  | clear =>
      apply Program.Once.bind (Program.once_perform StoreInterface _)
      intro cleared
      exact .emit _ (.done _)
  | hardwareState =>
      exact Operation.once_reporting
        _ (Manager.once_entry_bind manager fun entry => .done _)
  | thumbprint =>
      exact Operation.once_reporting
        _ (Manager.once_entry_bind manager fun entry =>
            Operation.quiet_ofExcept _)
  | certificates =>
      exact Operation.once_reporting _ (Manager.once_ask .certificates id)
  | publicKey format =>
      obtain ⟨known, found⟩ :=
        Option.isSome_iff_exists.1 (Option.isNone_eq_false_iff.1 accepted)
      exact once_publicKey manager found
  | sign algorithm tape message => exact once_sign manager algorithm tape message
  | signText algorithm tape text =>
      exact Operation.once_bind (once_sign manager algorithm tape
        (Utf8.encode text)) fun signature => .done _
  | verify algorithm message signature =>
      exact once_verify manager algorithm message signature
  | verifyText algorithm text signature =>
      obtain ⟨bytes, decoded⟩ :=
        Option.isSome_iff_exists.1 (Option.isNone_eq_false_iff.1 accepted)
      change (manager.verifyText algorithm text signature).Once
      rw [Manager.verifyText, decoded]
      exact once_verify manager algorithm (Utf8.encode text) bytes
  | encrypt spec tape message => exact once_encrypt manager spec tape message
  | encryptText spec tape text =>
      exact Operation.once_bind (once_encrypt manager spec tape
        (Utf8.encode text)) fun ciphertext => .done _
  | decrypt spec ciphertext => exact once_decrypt manager spec ciphertext
  | decryptText spec text =>
      obtain ⟨bytes, decoded⟩ :=
        Option.isSome_iff_exists.1 (Option.isNone_eq_false_iff.1 accepted)
      exact once_decryptText manager spec decoded
  | mint tape request =>
      cases parsed : RequestTarget.parse request.url with
      | error failure =>
          rw [isRefused, parsed] at accepted
          cases accepted
      | ok target => exact once_mint manager tape parsed
  | requestConfirmation =>
      refine Operation.once_reporting _ (Manager.once_entry_bind manager ?_)
      intro entry
      exact Operation.quiet_bind (Operation.quiet_ofExcept _) fun thumbprint =>
        .done _

theorem program_quiet (manager : Manager) {operation : ManagerCall}
    (refused : operation.isRefused = true) :
    (operation.program manager).Quiet := by
  cases operation with
  | publicKey format =>
      have unknown : PublicKeyFormat.ofName? format = none :=
        Option.isNone_iff_eq_none.1 refused
      apply Operation.quiet_reporting
      rw [unknown]
      exact .done _
  | verifyText algorithm text signature =>
      have undecoded : Base64.decode .padded signature = none :=
        Option.isNone_iff_eq_none.1 refused
      change (manager.verifyText algorithm text signature).Quiet
      rw [Manager.verifyText, undecoded]
      exact .emit _ (.done _)
  | decryptText spec text =>
      have undecoded : Base64.decode .unpadded text = none :=
        Option.isNone_iff_eq_none.1 refused
      have read : Manager.ciphertextBytes text =
          .error (.blockSizeMismatch Base64.refusal) := by
        rw [Manager.ciphertextBytes, undecoded]
      change (manager.decryptText spec text).run.Quiet
      rw [Manager.decryptText, read]
      exact .emit _ (.done _)
  | mint tape request =>
      cases parsed : RequestTarget.parse request.url with
      | ok target =>
          rw [isRefused, parsed] at refused
          cases refused
      | error failure =>
          apply Operation.quiet_reporting
          rw [Manager.tokenFor, parsed]
          exact .done _
  | _ => cases refused

end ManagerCall

end BoundKey
