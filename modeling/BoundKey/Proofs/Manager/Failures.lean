import BoundKey.Proofs.Manager.Causes
import BoundKey.Proofs.Manager.Slot

set_option autoImplicit false

/-!
Exactly when the operations of a manager fail, in the standard wiring and over a
key store in memory. For each operation the causes of failure are listed in the
order in which they count; whatever turns came before, an operation fails with
the first of its causes that holds, and succeeds if none does. Of generation
only one thing is taken for granted, that the numbers it settles on are prime.
-/

namespace BoundKey

/-! ### Texts of failures -/

theorem head?_append_of_head? {front : String} {first : Char}
    (begins : front.toList.head? = some first)
    (back : String) : (front ++ back).toList.head? = some first := by
  rw [String.toList_append, List.head?_append, begins]
  rfl

theorem ne_of_head? {text other : String} {first otherFirst : Char}
    (begins : text.toList.head? = some first)
    (otherBegins : other.toList.head? = some otherFirst)
    (differ : first ≠ otherFirst) : text ≠ other := by
  rintro rfl
  exact differ (Option.some.inj (begins.symm.trans otherBegins))

theorem refusal_ne (length size : Nat) :
    "Invalid input for the given encoding" ≠
      s!"ciphertext of {length} bytes is not a multiple of {size}" := by
  refine ne_of_head? rfl ?_ (by decide : 'I' ≠ 'c')
  exact head?_append_of_head?
    (head?_append_of_head? (head?_append_of_head? rfl _) _) _

theorem Utf8.Fault.message_ne (fault : Utf8.Fault) :
    fault.message ≠ "Bad padding" := by
  have begins : fault.message.toList.head? = some 'i' := by
    cases fault with
    | malformed start length =>
        exact head?_append_of_head?
          (head?_append_of_head? (head?_append_of_head? rfl _) _) _
    | incomplete start => exact head?_append_of_head? rfl _
  exact ne_of_head? begins rfl (by decide : 'i' ≠ 'B')

/-! ### Arguments that are refused -/

theorem PublicKeyFormat.ofName?_eq_none_iff {name : String} :
    ofName? name = none ↔ name ≠ "X_509_SubjectPublicKeyInfo_ASN_1" ∧
      name ≠ "JWK" := by
  rw [ofName?, List.find?_eq_none]
  constructor
  · intro unlisted
    refine ⟨fun same =>
      unlisted .subjectPublicKeyInfo ?_ (beq_iff_eq.2 same.symm),
      fun same => unlisted .jwk ?_ (beq_iff_eq.2 same.symm)⟩
    · exact List.mem_cons_self
    · exact List.mem_cons_of_mem _ List.mem_cons_self
  · rintro ⟨notInfo, notJwk⟩ format _ named
    cases format with
    | subjectPublicKeyInfo => exact notInfo (eq_of_beq named).symm
    | jwk => exact notJwk (eq_of_beq named).symm

theorem RequestTarget.argumentInvalid_of_parse {text : String} {failure : Failure}
    (refused : parse text = .error failure) :
    ∃ detail, failure = .argumentInvalid detail := by
  unfold parse at refused
  dsimp only at refused
  split at refused
  · cases refused
    exact ⟨_, rfl⟩
  · split at refused
    · cases refused
    · cases refused
      exact ⟨_, rfl⟩

/-! ### The causes of each operation -/

def EndsBy {α : Type} (answer : Option (Except Failure α))
    (causes : List (Failure × Prop)) : Prop :=
  ∃ result, answer = some result ∧ FailsBy result causes

def CipherSpec.OpensFor (spec : CipherSpec) (slot : Option KeyEntry)
    (block : Bytes) : Prop :=
  ∃ entry, slot = some entry ∧ spec.Opens entry.publicKey block

namespace Manager

abbrev noKey (manager : Manager) (slot : Option KeyEntry) : Failure × Prop :=
  (.keyMissing manager.keyAlias, slot = none)

/-- The length in bytes of the moduli that a manager generates. -/
def blockSize (manager : Manager) : Nat :=
  (manager.parameters.keySize + 7) / 8

/-- When each operation fails on a slot, and how. -/
structure FailsExactly (manager : Manager) (slot : Option KeyEntry) : Prop where
  sign : ∀ algorithm tape message supply, EndsBy
    ((Turn.mk (.sign algorithm tape message) supply).answer manager slot)
    (manager.noKey slot :: algorithm.causes manager.blockSize message)
  signText : ∀ algorithm tape text supply, EndsBy
    ((Turn.mk (.signText algorithm tape text) supply).answer manager slot)
    (manager.noKey slot :: algorithm.causes manager.blockSize (Utf8.encode text))
  encrypt : ∀ spec tape message supply, EndsBy
    ((Turn.mk (.encrypt spec tape message) supply).answer manager slot)
    (manager.noKey slot :: spec.causes)
  encryptText : ∀ spec tape text supply, EndsBy
    ((Turn.mk (.encryptText spec tape text) supply).answer manager slot)
    (manager.noKey slot :: spec.causes)
  decrypt : ∀ spec ciphertext supply, EndsBy
    ((Turn.mk (.decrypt spec ciphertext) supply).answer manager slot)
    (manager.noKey slot :: spec.decryptionCauses manager.blockSize
      (spec.OpensFor slot) ciphertext)
  /-- The text is decoded first, whether there is a key or not, and the message
  is read last. -/
  decryptText : ∀ spec text supply, ∃ detail, EndsBy
    ((Turn.mk (.decryptText spec text) supply).answer manager slot)
    ((.blockSizeMismatch "Invalid input for the given encoding",
      Base64.decode .unpadded text = none) ::
      manager.noKey slot :: spec.decryptionCauses manager.blockSize
        (spec.OpensFor slot) ((Base64.decode .unpadded text).getD []) ++
      [(.encryptionPaddingViolation detail,
        ∃ bytes message, Base64.decode .unpadded text = some bytes ∧
        (Turn.mk (.decrypt spec bytes) supply).answer manager slot =
          some (.ok message) ∧
        Utf8.decode? message = none)])
  /-- An unknown format is refused whether there is a key or not. -/
  publicKey : ∀ format supply, EndsBy
    ((Turn.mk (.publicKey format) supply).answer manager slot)
    [(.unknownExportFormat format, format ≠ "X_509_SubjectPublicKeyInfo_ASN_1" ∧
      format ≠ "JWK"), manager.noKey slot]
  /-- The URL is read first, whether there is a key or not. -/
  mint : ∀ tape request supply, ∃ detail, EndsBy
    ((Turn.mk (.mint tape request) supply).answer manager slot)
    [(.argumentInvalid detail, ∀ target,
      RequestTarget.parse request.url ≠ .ok target), manager.noKey slot]
  hardwareState :
    ∀ supply, EndsBy ((Turn.mk .hardwareState supply).answer manager slot)
      [manager.noKey slot]
  thumbprint :
    ∀ supply, EndsBy ((Turn.mk .thumbprint supply).answer manager slot)
      [manager.noKey slot]
  requestConfirmation : ∀ supply, EndsBy
    ((Turn.mk .requestConfirmation supply).answer manager slot)
    [manager.noKey slot]
  creationDate :
    ∀ supply, EndsBy ((Turn.mk .creationDate supply).answer manager slot) []
  certificates :
    ∀ supply, EndsBy ((Turn.mk .certificates supply).answer manager slot) []

variable {manager : Manager} {slot : Option KeyEntry}

/-! ### Work on the slot -/

theorem failsBy_held {α : Type} {work : KeyEntry → Except Failure α}
    {causes : List (Failure × Prop)}
    (other : ∀ detail, .keyMissing detail ∉ causes.map Prod.fst)
    (works : ∀ entry, slot = some entry → FailsBy (work entry) causes) :
    FailsBy (manager.held slot >>= work) (manager.noKey slot :: causes) := by
  cases slot with
  | none => exact .holds rfl rfl
  | some entry =>
      exact .passed (Option.some_ne_none entry) (other _) (works entry rfl)

theorem held_bind_map {α β : Type} (work : KeyEntry → Except Failure α)
    (change : α → β) :
    (manager.held slot >>= fun entry => (work entry).map change) =
      (manager.held slot >>= work).map change := by
  cases slot with
  | none => rfl
  | some entry => rfl

theorem endsBy_publicKey (format : String) (supply : SoftwareStore.Supply) :
    EndsBy ((Turn.mk (.publicKey format) supply).answer manager slot)
    [(.unknownExportFormat format, format ≠ "X_509_SubjectPublicKeyInfo_ASN_1" ∧
      format ≠ "JWK"), manager.noKey slot] := by
  rw [Turn.answer_eq, ManagerCall.seen]
  refine ⟨_, rfl, ?_⟩
  rw [← PublicKeyFormat.ofName?_eq_none_iff]
  cases known : PublicKeyFormat.ofName? format with
  | none => exact .holds rfl rfl
  | some kind =>
      refine .passed (Option.some_ne_none kind) (by simp) ?_
      exact failsBy_held (fun _ => List.not_mem_nil) fun entry _ => ⟨_, rfl⟩

theorem failsBy_plaintext (message : Bytes) : ∃ detail, detail ≠ "Bad padding" ∧
    FailsBy (plaintext message) [(.encryptionPaddingViolation detail,
      Utf8.decode? message = none)] := by
  rw [plaintext, Utf8.decode?]
  cases Utf8.decode message with
  | ok text =>
      exact ⟨"", by decide, .passed (Option.some_ne_none text)
        List.not_mem_nil ⟨text, rfl⟩⟩
  | error fault => exact ⟨fault.message, fault.message_ne, .holds rfl rfl⟩

/-- A key in the slot, if there is one, is fresh, and has at least 2048 bits. -/
def HoldsFresh (manager : Manager) (slot : Option KeyEntry) : Prop :=
  ∀ entry, slot = some entry →
    entry.privateKey.IsFresh manager.parameters.keySize ∧
      2048 ≤ manager.parameters.keySize

variable (standard : manager.provider = .standard)
  (holds : manager.HoldsFresh slot)

include standard holds

theorem failsBy_held_signature (algorithm : SigningAlgorithm) (tape : Tape)
    (message : Bytes) :
    FailsBy (manager.held slot >>= manager.signature algorithm tape message)
      (manager.noKey slot :: algorithm.causes manager.blockSize message) := by
  apply failsBy_held (by simp [SigningAlgorithm.causes])
  intro entry stands
  obtain ⟨fresh, large⟩ := holds entry stands
  exact failsBy_signature standard fresh large algorithm tape message

theorem failsBy_held_ciphertext (spec : CipherSpec) (tape : Tape)
    (message : Bytes) :
    FailsBy (manager.held slot >>= manager.ciphertext spec tape message)
      (manager.noKey slot :: spec.causes) := by
  apply failsBy_held (by simp [CipherSpec.causes])
  intro entry stands
  obtain ⟨fresh, large⟩ := holds entry stands
  exact failsBy_ciphertext standard fresh large spec tape message

theorem failsBy_held_deciphered (spec : CipherSpec) (ciphertext : Bytes) :
    FailsBy (manager.held slot >>= manager.deciphered spec ciphertext)
      (manager.noKey slot :: spec.decryptionCauses manager.blockSize
        (spec.OpensFor slot) ciphertext) := by
  apply failsBy_held (by simp [CipherSpec.decryptionCauses, CipherSpec.causes])
  intro entry stands
  obtain ⟨fresh, large⟩ := holds entry stands
  have opens : spec.OpensFor slot = spec.Opens entry.publicKey := by
    funext block
    rw [CipherSpec.OpensFor, stands]
    exact propext ⟨fun ⟨_, same, opened⟩ => Option.some.inj same ▸ opened,
      fun opened => ⟨entry, rfl, opened⟩⟩
  rw [opens]
  exact failsBy_deciphered standard fresh large spec ciphertext

theorem failsBy_held_token (tape : Tape) (request : Request)
    (target : RequestTarget) :
    FailsBy (manager.held slot >>= manager.tokenOf tape request target)
      [manager.noKey slot] := by
  apply failsBy_held (fun _ => List.not_mem_nil)
  intro entry stands
  obtain ⟨fresh, large⟩ := holds entry stands
  have wide : 62 ≤ entry.privateKey.size := by
    rw [fresh.size_eq]
    omega
  obtain ⟨signature, found, signed, _⟩ :=
    sign_sha256 standard fresh.sound wide tape
    (Utf8.encode (Jws.signingInput
      (Request.header (thumbprintText entry.publicKey))
      (request.claims target entry.publicKey (thumbprintText entry.publicKey))))
  exact ⟨_, tokenOf_eq_ok_iff.2 ⟨_, _, signature,
    thumbprintOf_standard standard entry, found, signed, rfl⟩⟩

/-- A message that is no text is refused at the end, in words that no other
failure has. -/
theorem failsBy_held_plaintext (spec : CipherSpec) (ciphertext : Bytes) :
    ∃ detail, FailsBy (manager.held slot >>= fun entry =>
      manager.deciphered spec ciphertext entry >>= plaintext)
      (manager.noKey slot :: spec.decryptionCauses manager.blockSize
        (spec.OpensFor slot) ciphertext ++
        [(.encryptionPaddingViolation detail, ∃ message,
          manager.held slot >>= manager.deciphered spec ciphertext =
            .ok message ∧ Utf8.decode? message = none)]) := by
  obtain ⟨detail, differs, reads⟩ : ∃ detail, detail ≠ "Bad padding" ∧ ∀ message,
      manager.held slot >>= manager.deciphered spec ciphertext = .ok message →
        FailsBy (plaintext message) [(.encryptionPaddingViolation detail, ∃ other,
          manager.held slot >>= manager.deciphered spec ciphertext = .ok other ∧
            Utf8.decode? other = none)] := by
    cases manager.held slot >>= manager.deciphered spec ciphertext with
    | error failure => exact ⟨"", by decide, nofun⟩
    | ok message =>
        obtain ⟨detail, differs, fails⟩ := failsBy_plaintext message
        have same : (Utf8.decode? message = none) =
            ∃ other, (Except.ok message : Except Failure Bytes) = .ok other ∧
              Utf8.decode? other = none := by
          simp
        rw [same] at fails
        refine ⟨detail, differs, ?_⟩
        rintro _ ⟨⟩
        exact fails
  refine ⟨detail, ?_⟩
  rw [← bind_assoc]
  refine (failsBy_held_deciphered standard holds spec ciphertext).bind ?_ reads
  simp [CipherSpec.decryptionCauses, CipherSpec.causes, differs.symm]

theorem endsBy_decryptText (spec : CipherSpec) (text : String)
    (supply : SoftwareStore.Supply) : ∃ detail, EndsBy
    ((Turn.mk (.decryptText spec text) supply).answer manager slot)
    ((.blockSizeMismatch "Invalid input for the given encoding",
      Base64.decode .unpadded text = none) ::
      manager.noKey slot :: spec.decryptionCauses manager.blockSize
        (spec.OpensFor slot) ((Base64.decode .unpadded text).getD []) ++
      [(.encryptionPaddingViolation detail,
        ∃ bytes message, Base64.decode .unpadded text = some bytes ∧
        (Turn.mk (.decrypt spec bytes) supply).answer manager slot =
          some (.ok message) ∧
        Utf8.decode? message = none)]) := by
  cases decoded : Base64.decode .unpadded text with
  | none =>
      refine ⟨"", .error (.blockSizeMismatch Base64.refusal), ?_, .holds rfl rfl⟩
      rw [Turn.answer_eq, ManagerCall.seen, decoded]
  | some bytes =>
      obtain ⟨detail, fails⟩ := failsBy_held_plaintext standard holds spec bytes
      have decrypts : (Turn.mk (.decrypt spec bytes) supply).answer manager slot =
          some (manager.held slot >>= manager.deciphered spec bytes) :=
        Turn.answer_eq _ _ _
      have same :
          (∃ message, manager.held slot >>= manager.deciphered spec bytes =
            .ok message ∧
            Utf8.decode? message = none) =
          ∃ other message, some bytes = some other ∧
            (Turn.mk (.decrypt spec other) supply).answer manager slot =
              some (.ok message) ∧
            Utf8.decode? message = none := by
        apply propext
        constructor
        · rintro ⟨message, worked, unread⟩
          exact ⟨bytes, message, rfl,
            decrypts.trans (congrArg some worked), unread⟩
        · rintro ⟨_, message, ⟨⟩, answered, unread⟩
          exact ⟨message, Option.some.inj (decrypts.symm.trans answered), unread⟩
      rw [same] at fails
      refine ⟨detail, _, ?_, .passed (Option.some_ne_none bytes) ?_ fails⟩
      · rw [Turn.answer_eq, ManagerCall.seen, decoded]
      · simpa [CipherSpec.decryptionCauses, CipherSpec.causes] using refusal_ne
          bytes.length manager.blockSize

theorem endsBy_mint (tape : Tape) (request : Request)
    (supply : SoftwareStore.Supply) : ∃ detail, EndsBy
    ((Turn.mk (.mint tape request) supply).answer manager slot)
    [(.argumentInvalid detail, ∀ target,
      RequestTarget.parse request.url ≠ .ok target), manager.noKey slot] := by
  rw [Turn.answer_eq, ManagerCall.seen]
  cases parsed : RequestTarget.parse request.url with
  | error failure =>
      obtain ⟨detail, rfl⟩ := RequestTarget.argumentInvalid_of_parse parsed
      exact ⟨detail, _, rfl, .holds rfl (by simp)⟩
  | ok target =>
      refine ⟨"", _, rfl,
        .passed (fun refused => refused target rfl) (by simp) ?_⟩
      exact failsBy_held_token standard holds tape request target

theorem failsExactly_of_holdsFresh : manager.FailsExactly slot where
  sign algorithm tape message supply :=
    ⟨_, Turn.answer_eq _ _ _, failsBy_held_signature standard holds
      algorithm tape message⟩
  signText algorithm tape text supply := by
    have fails :=
      (failsBy_held_signature standard holds algorithm tape
        (Utf8.encode text)).map (Base64.encode .padded)
    rw [← held_bind_map] at fails
    exact ⟨_, Turn.answer_eq _ _ _, fails⟩
  encrypt spec tape message supply :=
    ⟨_, Turn.answer_eq _ _ _, failsBy_held_ciphertext standard holds
      spec tape message⟩
  encryptText spec tape text supply := by
    have fails :=
      (failsBy_held_ciphertext standard holds spec tape (Utf8.encode text)).map
        (Base64.encode .unpadded)
    rw [← held_bind_map] at fails
    exact ⟨_, Turn.answer_eq _ _ _, fails⟩
  decrypt spec ciphertext supply :=
    ⟨_, Turn.answer_eq _ _ _, failsBy_held_deciphered standard
      holds spec ciphertext⟩
  decryptText := endsBy_decryptText standard holds
  publicKey := endsBy_publicKey
  mint := endsBy_mint standard holds
  hardwareState supply :=
    ⟨_, Turn.answer_eq _ _ _, failsBy_held
      (fun _ => List.not_mem_nil) fun entry _ => ⟨_, rfl⟩⟩
  thumbprint supply :=
    ⟨_, Turn.answer_eq _ _ _, failsBy_held
      (fun _ => List.not_mem_nil) fun entry _ =>
      ⟨_, thumbprintOf_standard standard entry⟩⟩
  requestConfirmation supply := by
    refine ⟨_, Turn.answer_eq _ _ _,
      failsBy_held (fun _ => List.not_mem_nil) fun entry _ => ?_⟩
    rw [confirmationOf, thumbprintOf_standard standard entry]
    exact ⟨_, rfl⟩
  creationDate supply := ⟨_, Turn.answer_eq _ _ _, _, rfl⟩
  certificates supply := ⟨_, Turn.answer_eq _ _ _, _, rfl⟩

omit standard holds

/-! ### Reachable slots -/

theorem holdsFresh_slotAfter (turns : List Turn)
    (primes : ∀ entry, manager.slotAfter turns = some entry →
      entry.privateKey.p.Prime ∧ entry.privateKey.q.Prime) :
    manager.HoldsFresh (manager.slotAfter turns) := by
  intro entry stands
  obtain ⟨primeP, primeQ⟩ := primes entry stands
  obtain ⟨_, turn, _, _, ⟨_, made⟩, _⟩ :=
    (manager.slotAfter_eq_some_iff turns entry).1 stands
  obtain ⟨least, _, generated, _⟩ := SoftwareStore.freshEntry_eq_ok_iff.1 made
  have large : 2048 ≤ manager.parameters.keySize := least
  exact ⟨Rsa.PrivateKey.isFresh_of_generate (by omega) generated
    primeP primeQ, large⟩

/-- After any turns over a store that was empty, if a key in the slot was
generated of primes: its modulus has as many bits as the manager's parameters
say, its exponent is 65537, and each operation fails exactly for the causes
listed, the first that holds being the one that shows. -/
theorem exact_failures {manager : Manager}
    (standard : manager.provider = .standard) (turns : List Turn)
    (primes : ∀ entry, manager.slotAfter turns = some entry →
      entry.privateKey.p.Prime ∧ entry.privateKey.q.Prime) :
    (∀ entry, manager.slotAfter turns = some entry →
      bitLength entry.publicKey.modulus = manager.parameters.keySize ∧
      entry.publicKey.size = manager.blockSize ∧
      entry.publicKey.exponent = 65537) ∧
    manager.FailsExactly (manager.slotAfter turns) := by
  have holds := holdsFresh_slotAfter turns primes
  refine ⟨?_, failsExactly_of_holdsFresh standard holds⟩
  intro entry stands
  obtain ⟨fresh, _⟩ := holds entry stands
  exact ⟨fresh.sized, fresh.size_eq, fresh.exponent⟩

def deviceManager : Manager :=
  ⟨"device", .standard, ⟨2048, "CN=device", 3600⟩⟩

/-- The case of a generation that settles on two numbers with a proof that they
are prime. A text that is signed as it is may have 245 bytes, and no more. -/
theorem exact_failures_certified :
    ∃ (supply : SoftwareStore.Supply) (entry : KeyEntry),
    deviceManager.slotAfter [⟨.generate, supply⟩] = some entry ∧
    entry.privateKey.p.Prime ∧ entry.privateKey.q.Prime ∧
    entry.publicKey.size = 256 ∧
    deviceManager.FailsExactly (some entry) ∧
    (Turn.mk (.sign .none (.ofSeed 0) (List.replicate 246 0)) supply).answer
      deviceManager (some entry) =
      some (.error (.signingFailure (.couldNotSign "message too long"))) ∧
    ∃ signature,
      (Turn.mk (.sign .none (.ofSeed 0) (List.replicate 245 0)) supply).answer
        deviceManager (some entry) = some (.ok signature) := by
  obtain ⟨entry, made, built⟩ : ∃ entry,
      SoftwareStore.freshEntry ⟨Rsa.certifiedTape, ⟨0⟩⟩ ⟨2048, "CN=device",
        3600⟩ = some (.ok entry) ∧
      Rsa.PrivateKey.ofPrimes (3931 * 2 ^ 1012 + 1) (52951 * 2 ^ 1008 + 1)
        Rsa.PrivateKey.usualExponent = .ok entry.privateKey :=
    SoftwareStore.freshEntry_of_generate (by decide) (by decide)
      Rsa.generate_certifiedTape (by decide +kernel)
  -- From here on the supply has a name only, so that no step runs the
  -- generation again.
  generalize (⟨Rsa.certifiedTape, ⟨0⟩⟩ : SoftwareStore.Supply) = supply at made
  obtain ⟨sameP, sameQ, _⟩ := Rsa.PrivateKey.ofPrimes_eq_ok built
  obtain ⟨primeP, primeQ⟩ := Rsa.prime_certified
  rw [← sameP] at primeP
  rw [← sameQ] at primeQ
  have stands : deviceManager.slotAfter [⟨.generate, supply⟩] = some entry :=
    (deviceManager.slotAfter_eq_some_iff _ entry).2 ⟨[], _, [], rfl,
      ⟨rfl, made⟩, nofun⟩
  have primes :
      ∀ other, deviceManager.slotAfter [⟨.generate, supply⟩] = some other →
      other.privateKey.p.Prime ∧ other.privateKey.q.Prime := by
    intro other otherStands
    cases stands.symm.trans otherStands
    exact ⟨primeP, primeQ⟩
  have standard : deviceManager.provider = .standard := rfl
  obtain ⟨sized, fails⟩ := exact_failures standard _ primes
  rw [stands] at fails
  refine ⟨supply, entry, stands, primeP, primeQ, (sized entry stands).2.1,
    fails, ?_, ?_⟩
  · have long : 256 - 11 < (List.replicate 246 (0 : UInt8)).length := by
      rw [List.length_replicate]
      decide
    obtain ⟨result, answered, _, present⟩ :=
      fails.sign .none (.ofSeed 0) (List.replicate 246 0) supply
    obtain ⟨_, supported⟩ := present nofun
    rw [answered, (supported nofun).1.2 ⟨rfl, long⟩]
  · have short : ¬ 256 - 11 < (List.replicate 245 (0 : UInt8)).length := by
      rw [List.length_replicate]
      decide
    obtain ⟨result, answered, _, present⟩ :=
      fails.sign .none (.ofSeed 0) (List.replicate 245 0) supply
    obtain ⟨_, supported⟩ := present nofun
    obtain ⟨signature, signed⟩ := (supported nofun).2 fun both => short both.2
    exact ⟨signature, answered.trans (congrArg some signed)⟩

end Manager

end BoundKey
