import BoundKey.Proofs.Manager.Calls
import BoundKey.Proofs.Manager.Work
import BoundKey.Store.Software

set_option autoImplicit false

/-!
What the operations answer over a key store in memory, written down as a
function of the one slot that the store has. All of them but a generation are
settled by the slot, and all but a generation and a removal leave it. Work on
the key fails for want of a key exactly if the slot is empty, because none of
the registered primitives fails that way itself.
-/

namespace BoundKey

/-! ### One slot -/

def Manager.held (manager : Manager) : Option KeyEntry → Except Failure KeyEntry
  | some entry => .ok entry
  | none => .error (.keyMissing manager.keyAlias)

namespace ManagerCall

def seen (manager : Manager) (supply : SoftwareStore.Supply)
    (slot : Option KeyEntry) : (operation : ManagerCall) → Option operation.Answer
  | isPresent => some slot.isSome
  | isPresentWithThumbprint text =>
      some (slot.any (·.hasThumbprint (Utf8.encode text)))
  | generate =>
      (SoftwareStore.freshEntry supply manager.parameters).map fun made =>
      made.mapError Failure.ofStore >>= manager.thumbprintOf
  | creationDate => some (.ok (slot.map (·.createdAt)))
  | clear => some slot.isSome
  | hardwareState =>
      some (manager.held slot >>= fun entry => .ok (.ofSecurity entry.security))
  | thumbprint => some (manager.held slot >>= manager.thumbprintOf)
  | certificates => some (.ok ((slot.map (·.certificates)).getD []))
  | publicKey format => some (match PublicKeyFormat.ofName? format with
    | none => .error (.unknownExportFormat format)
    | some known =>
        manager.held slot >>= fun entry => .ok (Manager.exported known entry))
  | sign algorithm tape message =>
      some (manager.held slot >>= manager.signature algorithm tape message)
  | signText algorithm tape text => some (manager.held slot >>= fun entry =>
      (manager.signature algorithm tape (Utf8.encode text) entry).map
        (Base64.encode .padded))
  | verify algorithm message signature =>
    some (manager.held slot >>= manager.signatureCheck algorithm
      message signature).isOk
  | verifyText algorithm text signature =>
      some (match Base64.decode .padded signature with
    | none => false
    | some bytes =>
        (manager.held slot >>= manager.signatureCheck algorithm
          (Utf8.encode text) bytes).isOk)
  | encrypt spec tape message =>
      some (manager.held slot >>= manager.ciphertext spec tape message)
  | encryptText spec tape text => some (manager.held slot >>= fun entry =>
      (manager.ciphertext spec tape (Utf8.encode text) entry).map
        (Base64.encode .unpadded))
  | decrypt spec ciphertext =>
      some (manager.held slot >>= manager.deciphered spec ciphertext)
  | decryptText spec text => some (match Base64.decode .unpadded text with
    | none => .error (.blockSizeMismatch Base64.refusal)
    | some bytes => manager.held slot >>= fun entry =>
        manager.deciphered spec bytes entry >>= Manager.plaintext)
  | mint tape request => some (match RequestTarget.parse request.url with
    | .error failure => .error failure
    | .ok target => manager.held slot >>= manager.tokenOf tape request target)
  | requestConfirmation => some (manager.held slot >>= manager.confirmationOf)

def leaves (manager : Manager) (supply : SoftwareStore.Supply)
    (slot : Option KeyEntry) : ManagerCall → Option KeyEntry
  | generate => match SoftwareStore.freshEntry supply manager.parameters with
    | some (.ok entry) => some entry
    | _ => slot
  | clear => none
  | _ => slot

end ManagerCall

/-! ### Runs over the store -/

namespace SoftwareStore

variable {α : Type} (supply : Supply) (slot : Option KeyEntry)

theorem handler_entry (manager : Manager) :
    ((handler manager.keyAlias supply slot .entry).1).map
      (·.mapError Failure.ofStore) = some (manager.held slot) ∧
    (handler manager.keyAlias supply slot .entry).2.1 = slot := by
  cases slot with
  | none => exact ⟨rfl, rfl⟩
  | some entry => exact ⟨rfl, rfl⟩

theorem run_works (manager : Manager) {operation : StoreOperation α}
    {work : KeyEntry → Except Failure α}
    (works : Manager.Works operation work) :
    (Program.run (handler manager.keyAlias supply) slot operation.run).1 =
      some (manager.held slot >>= work) ∧
    (Program.run (handler manager.keyAlias supply) slot operation.run).2.1 =
      slot := by
  obtain ⟨answered, left⟩ := handler_entry supply slot manager
  rw [works.value, works.left, left]
  refine ⟨?_, rfl⟩
  have composed :
      (fun answer : Except StoreFault KeyEntry =>
        answer.mapError Failure.ofStore >>= work) =
      (· >>= work) ∘ (·.mapError Failure.ofStore) := rfl
  rw [composed, ← Option.map_map, answered]
  rfl

theorem run_verify (manager : Manager) (algorithm : SigningAlgorithm)
    (message signature : Bytes) :
    (Program.run (handler manager.keyAlias supply) slot
      (manager.verify algorithm message signature)).1 =
      some (manager.held slot >>= manager.signatureCheck algorithm message
        signature).isOk ∧
    (Program.run (handler manager.keyAlias supply) slot
      (manager.verify algorithm message signature)).2.1 = slot := by
  obtain ⟨value, left⟩ := Manager.run_verify_isOk
    (handler manager.keyAlias supply) slot manager algorithm message
    signature
  obtain ⟨checked, kept⟩ := run_works supply slot manager
    (manager.works_checkSignature algorithm message signature)
  rw [value, left, checked, kept]
  exact ⟨rfl, rfl⟩

theorem run_generate (manager : Manager) :
    (Program.run (handler manager.keyAlias supply) slot manager.generate.run).1 =
      (freshEntry supply manager.parameters).map (fun made =>
        made.mapError Failure.ofStore >>= manager.thumbprintOf) ∧
    (Program.run (handler manager.keyAlias supply) slot
      manager.generate.run).2.1 =
      ManagerCall.generate.leaves manager supply slot := by
  obtain ⟨value, left⟩ :=
    Manager.run_generate (handler manager.keyAlias supply) slot manager
  rw [value, left, ManagerCall.leaves, handler]
  cases freshEntry supply manager.parameters with
  | none => exact ⟨rfl, rfl⟩
  | some made =>
      cases made with
      | ok entry => exact ⟨rfl, rfl⟩
      | error fault => exact ⟨rfl, rfl⟩

/-- Every operation answers what is seen on the slot, and leaves what it leaves
there. -/
theorem run_eq (manager : Manager) (operation : ManagerCall) :
    (Program.run (handler manager.keyAlias supply) slot
      (operation.program manager)).1 = operation.seen manager supply slot ∧
    (Program.run (handler manager.keyAlias supply) slot
      (operation.program manager)).2.1 =
      operation.leaves manager supply slot := by
  cases operation with
  | isPresent => exact ⟨rfl, rfl⟩
  | isPresentWithThumbprint text => exact ⟨rfl, rfl⟩
  | generate => exact run_generate supply slot manager
  | creationDate => exact ⟨rfl, rfl⟩
  | clear => exact ⟨rfl, rfl⟩
  | hardwareState =>
      exact run_works supply slot manager manager.works_hardwareState
  | thumbprint => exact run_works supply slot manager manager.works_thumbprint
  | certificates => exact ⟨rfl, rfl⟩
  | publicKey format =>
      cases known : PublicKeyFormat.ofName? format with
      | none =>
          have quiet : ((ManagerCall.publicKey format).program manager).Quiet :=
            ManagerCall.program_quiet manager (Option.isNone_iff_eq_none.2 known)
          obtain ⟨value, left⟩ :=
            quiet.run_eq (handler manager.keyAlias supply) slot
          refine ⟨value.trans ?_, left⟩
          rw [ManagerCall.seen, ManagerCall.program, Manager.publicKey, known]
          rfl
      | some kind =>
          rw [ManagerCall.seen, known]
          exact run_works supply slot manager (manager.works_publicKey known)
  | sign algorithm tape message =>
      exact run_works supply slot manager
        (manager.works_sign algorithm tape message)
  | signText algorithm tape text =>
      exact run_works supply slot manager
        (manager.works_signText algorithm tape text)
  | verify algorithm message signature =>
      exact run_verify supply slot manager algorithm message signature
  | verifyText algorithm text signature =>
      rw [ManagerCall.seen, ManagerCall.program, Manager.verifyText]
      cases Base64.decode .padded signature with
      | none => exact ⟨rfl, rfl⟩
      | some bytes =>
          exact run_verify supply slot manager algorithm (Utf8.encode text) bytes
  | encrypt spec tape message =>
      exact run_works supply slot manager
        (manager.works_encrypt spec tape message)
  | encryptText spec tape text =>
      exact run_works supply slot manager
        (manager.works_encryptText spec tape text)
  | decrypt spec ciphertext =>
      exact run_works supply slot manager (manager.works_decrypt spec ciphertext)
  | decryptText spec text =>
      cases decoded : Base64.decode .unpadded text with
      | none =>
          rw [ManagerCall.seen, ManagerCall.program, Manager.decryptText,
            Manager.ciphertextBytes, decoded]
          exact ⟨rfl, rfl⟩
      | some bytes =>
          rw [ManagerCall.seen, decoded]
          exact run_works supply slot manager
            (manager.works_decryptText spec decoded)
  | mint tape request =>
      cases parsed : RequestTarget.parse request.url with
      | error failure =>
          rw [ManagerCall.seen, ManagerCall.program, Manager.mint,
            Manager.tokenFor, parsed]
          exact ⟨rfl, rfl⟩
      | ok target =>
          have kept : (ManagerCall.mint tape request).leaves manager supply
              slot = slot := rfl
          rw [ManagerCall.seen, ManagerCall.program, kept, parsed]
          have ran :=
            run_works supply slot manager (manager.works_mint tape parsed)
          -- The run is compared as a whole: opened, it would read the URL
          -- again.
          generalize (manager.mint tape request).run = program at ran ⊢
          exact ran
  | requestConfirmation =>
      exact run_works supply slot manager manager.works_requestConfirmation

end SoftwareStore

end BoundKey
