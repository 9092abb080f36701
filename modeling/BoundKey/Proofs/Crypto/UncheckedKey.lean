import BoundKey.Proofs.Crypto.BlockCipher

set_option autoImplicit false

/-!
Encryption to a public key that nobody has checked, such as one read from
outside. The modulus is measured first, then the parameters are looked at, then
the key is checked as the first piece is encrypted, and there always is a first
piece. After these three nothing fails: a message is cut into pieces that fit,
so no piece is too long for its block. The answer is thus settled before a byte
of the message is read.
-/

namespace BoundKey

theorem Rsa.PublicKey.concernsKey_of_check {key : PublicKey} {fault : Fault}
    (refused : key.check = .error fault) : fault.concernsKey = true := by
  unfold check at refused
  split_ifs at refused <;> cases refused <;> rfl

namespace BlockCipher

theorem encryptFault_of_concernsKey
    {fault : Rsa.Fault} (concerned : fault.concernsKey = true) :
    encryptFault fault = .invalidKey fault.message := by
  cases fault with
  | messageTooLong | notDecryptable | inconsistent => cases concerned
  | _ => rfl

variable {padding : RsaPadding} {key : Rsa.PublicKey}
  {given : Option CipherParameters} {label : Bytes}

theorem labelBytes_of_fitting (fitting : padding = .pkcs1 → given = none) :
    ∃ label, labelBytes padding given = .ok label := by
  cases padding with
  | pkcs1 =>
      rw [fitting rfl]
      exact ⟨[], rfl⟩
  | oaep digest =>
      cases given with
      | none => exact ⟨[], rfl⟩
      | some parameters => exact ⟨_, rfl⟩

/-! ### Keys that are refused -/

theorem encrypt_of_narrow (narrow : key.size ≤ padding.overhead)
    (given : Option CipherParameters) (tape : Tape)
    (message : Bytes) :
    encrypt padding tape message key given =
      .error (.invalidKey
        s!"modulus of {key.size} bytes is too small for {padding.name}") := by
  rw [encrypt, pieceSize, if_pos narrow]
  rfl

theorem encrypt_of_room (room : padding.overhead < key.size)
    (given : Option CipherParameters) (tape : Tape)
    (message : Bytes) :
    encrypt padding tape message key given = (do
      let label ← labelBytes padding given
      encryptPieces padding label key tape
        (pieces (key.size - padding.overhead) message)) := by
  rw [encrypt, pieceSize_of_room room]
  rfl

/-- A key that does not pass its check is refused at the first piece, which also
an empty message has. -/
theorem encrypt_of_refused (room : padding.overhead < key.size)
    (labelled : labelBytes padding given = .ok label)
    {fault : Rsa.Fault} (refused : key.check = .error fault) (tape : Tape)
    (message : Bytes) : encrypt padding tape message key given =
      .error (.invalidKey fault.message) := by
  obtain ⟨piece, rest, cut⟩ := exists_pieces (Nat.sub_pos_of_lt room) message
  have shown :=
    encryptFault_of_concernsKey (Rsa.PublicKey.concernsKey_of_check refused)
  rw [encrypt_of_room room, labelled, cut]
  change encryptPieces padding label key tape (piece :: rest) = _
  rw [encryptPieces, encryptPiece, refused, ← shown]
  rfl

/-! ### Keys that pass -/

theorem encryptPiece_of_checked (checked : key.check = .ok ()) (label : Bytes)
    (tape : Tape) {piece : Bytes}
    (fits : piece.length + padding.overhead ≤ key.size) :
    ∃ block, encryptPiece padding label key tape piece = .ok block ∧
      block.length = key.size ∧
      Bytes.toNat block < key.modulus := by
  obtain ⟨rest, padded, _, _⟩ := padding.pad_of_fits label tape fits
  have below : key.apply (Bytes.toNat (0 :: rest)) < key.modulus := by
    rw [Rsa.PublicKey.apply, Rsa.powMod_eq]
    exact Nat.mod_lt _ (Nat.pos_of_ne_zero (Rsa.PublicKey.pos_of_check checked).1)
  have written :
      Bytes.toNat (Bytes.bigEndian key.size
        (key.apply (Bytes.toNat (0 :: rest)))) =
      key.apply (Bytes.toNat (0 :: rest)) :=
    Bytes.toNat_bigEndian (Nat.lt_trans below (lt_pow_byteLength key.modulus))
  refine ⟨Bytes.bigEndian key.size (key.apply (Bytes.toNat (0 :: rest))), ?_,
    Bytes.bigEndian_length _ _, ?_⟩
  · rw [encryptPiece, checked, padded]
  · rw [written]
    exact below

theorem encryptPieces_of_checked (checked : key.check = .ok ()) (label : Bytes)
    (tape : Tape) {pieces : List Bytes}
    (fit : ∀ piece ∈ pieces, piece.length + padding.overhead ≤ key.size) :
    ∃ blocks : List Bytes, encryptPieces padding label key tape pieces =
      .ok blocks.flatten ∧
      blocks.length = pieces.length ∧
      ∀ block ∈ blocks, block.length = key.size ∧
        Bytes.toNat block < key.modulus := by
  induction pieces generalizing tape with
  | nil => exact ⟨[], rfl, rfl, by simp⟩
  | cons piece rest ih =>
      obtain ⟨block, encrypted, first⟩ := encryptPiece_of_checked checked label
        tape (fit piece List.mem_cons_self)
      obtain ⟨blocks, encryptedRest, counted, later⟩ :=
        ih (tape.drop key.size) fun other member =>
          fit other (List.mem_cons_of_mem piece member)
      refine ⟨block :: blocks, ?_, ?_, ?_⟩
      · rw [encryptPieces, encrypted, encryptedRest]
        rfl
      · rw [List.length_cons, List.length_cons, counted]
      · intro other member
        rcases List.mem_cons.1 member with here | behind
        · rw [here]
          exact first
        · exact later other behind

theorem encrypt_of_checked (room : padding.overhead < key.size)
    (labelled : labelBytes padding given = .ok label)
    (checked : key.check = .ok ()) (tape : Tape) (message : Bytes) :
    ∃ blocks : List Bytes, encrypt padding tape message key given =
      .ok blocks.flatten ∧
      blocks.length = max 1
        ((message.length + (key.size - padding.overhead) - 1) /
          (key.size - padding.overhead)) ∧
      ∀ block ∈ blocks, block.length = key.size ∧
        Bytes.toNat block < key.modulus := by
  have fit : ∀ piece ∈ pieces (key.size - padding.overhead) message,
      piece.length + padding.overhead ≤ key.size :=
    fun piece => fits_of_mem_pieces room
  obtain ⟨blocks, encrypted, counted, each⟩ :=
    encryptPieces_of_checked checked label tape fit
  rw [length_pieces (Nat.sub_pos_of_lt room)] at counted
  refine ⟨blocks, ?_, counted, each⟩
  rw [encrypt_of_room room, labelled]
  exact encrypted

/-! ### Answers -/

/-- How encryption fails does not depend on the message, nor on the random
choices. -/
theorem encrypt_eq_error_congr (padding : RsaPadding) (key : Rsa.PublicKey)
    (given : Option CipherParameters)
    (tape otherTape : Tape) (message other : Bytes) (fault : CipherFault) :
    encrypt padding tape message key given = .error fault ↔
      encrypt padding otherTape other key given = .error fault := by
  by_cases room : padding.overhead < key.size
  · cases labelled : labelBytes padding given with
    | error refused =>
        rw [encrypt_of_room room, encrypt_of_room room, labelled]
        rfl
    | ok label =>
        cases checked : key.check with
        | error refused =>
            rw [encrypt_of_refused room labelled checked,
              encrypt_of_refused room labelled checked]
        | ok passed =>
            obtain ⟨_, encrypted, _⟩ :=
              encrypt_of_checked room labelled checked tape message
            obtain ⟨_, encryptedOther, _⟩ :=
              encrypt_of_checked room labelled checked otherTape other
            simp [encrypted, encryptedOther]
  · rw [encrypt_of_narrow (Nat.not_lt.1 room),
      encrypt_of_narrow (Nat.not_lt.1 room)]

theorem encrypt_eq_error (padding : RsaPadding) (key : Rsa.PublicKey)
    (given : Option CipherParameters) (tape : Tape)
    (message : Bytes) {fault : CipherFault}
    (failed : encrypt padding tape message key given = .error fault) :
    (∃ reason, fault = .invalidKey reason) ∨
      ∃ reason, fault = .invalidParameters reason := by
  by_cases room : padding.overhead < key.size
  · by_cases fitting : padding = .pkcs1 → given = none
    · obtain ⟨label, labelled⟩ := labelBytes_of_fitting fitting
      cases checked : key.check with
      | error refused =>
          rw [encrypt_of_refused room labelled checked] at failed
          exact .inl ⟨_, (Except.error.inj failed).symm⟩
      | ok passed =>
          obtain ⟨_, encrypted, _⟩ :=
            encrypt_of_checked room labelled checked tape message
          rw [encrypted] at failed
          cases failed
    · simp only [Classical.not_imp] at fitting
      obtain ⟨plain, some⟩ := fitting
      obtain ⟨parameters, present⟩ := Option.ne_none_iff_exists'.1 some
      rw [encrypt_of_room room, plain, present] at failed
      exact .inr ⟨_, (Except.error.inj failed).symm⟩
  · rw [encrypt_of_narrow (Nat.not_lt.1 room)] at failed
    exact .inl ⟨_, (Except.error.inj failed).symm⟩

/-- What encryption answers for a public key of any two numbers: a modulus
without room for the padding is refused first, then parameters that do not go
with it, then a key that fails its check, and every other key encrypts every
message. -/
theorem encrypt_unchecked_answers (padding : RsaPadding) (key : Rsa.PublicKey)
    (given : Option CipherParameters) (tape : Tape) (message : Bytes) :
    (RsaPadding.pkcs1.overhead = 11 ∧
      ∀ digest, (RsaPadding.oaep digest).overhead = 2 * digest.size + 2) ∧
    (key.size ≤ padding.overhead → encrypt padding tape message key given =
      .error (.invalidKey
        s!"modulus of {key.size} bytes is too small for {padding.name}")) ∧
    (padding.overhead < key.size →
      ∀ parameters, padding = .pkcs1 → given = some parameters →
      encrypt padding tape message key given =
        .error (.invalidParameters
          (parameters.describe ++ " cannot be used with PKCS#1 v1.5 padding"))) ∧
    (padding.overhead < key.size → (padding = .pkcs1 → given = none) →
      ∀ fault, key.check = .error fault →
      encrypt padding tape message key given =
        .error (.invalidKey fault.message)) ∧
    (padding.overhead < key.size → (padding = .pkcs1 → given = none) →
      key.check = .ok () →
      ∃ blocks : List Bytes, encrypt padding tape message key given =
        .ok blocks.flatten ∧
        blocks.flatten.length = key.size *
          max 1 ((message.length + (key.size - padding.overhead) - 1) /
            (key.size - padding.overhead)) ∧
        ∀ block ∈ blocks, block.length = key.size ∧
          Bytes.toNat block < key.modulus) ∧
    (∀ fault, encrypt padding tape message key given = .error fault →
      (∃ reason, fault = .invalidKey reason) ∨
        ∃ reason, fault = .invalidParameters reason) ∧
    ∀ otherTape other fault, encrypt padding tape message key given =
      .error fault ↔
      encrypt padding otherTape other key given = .error fault := by
  have overheads : RsaPadding.pkcs1.overhead = 11 ∧
      ∀ digest, (RsaPadding.oaep digest).overhead = 2 * digest.size + 2 :=
    ⟨rfl, fun digest => rfl⟩
  refine ⟨overheads, fun narrow => encrypt_of_narrow narrow given tape message,
    ?_, ?_, ?_, fun fault => encrypt_eq_error padding key given tape message,
    fun otherTape other =>
      encrypt_eq_error_congr padding key given tape otherTape message other⟩
  · intro room parameters plain present
    rw [encrypt_of_room room, plain, present]
    rfl
  · intro room fitting fault refused
    obtain ⟨label, labelled⟩ := labelBytes_of_fitting fitting
    exact encrypt_of_refused room labelled refused tape message
  · intro room fitting checked
    obtain ⟨label, labelled⟩ := labelBytes_of_fitting fitting
    obtain ⟨blocks, encrypted, counted, each⟩ :=
      encrypt_of_checked room labelled checked tape message
    have length : blocks.flatten.length = key.size * blocks.length :=
      length_flatten_of_sized fun block member => (each block member).1
    rw [counted] at length
    exact ⟨blocks, encrypted, length, each⟩

/-- The case of a modulus of twelve bytes, which leaves room for one byte of a
message in each block; of an even modulus, which is refused although there is
nothing to encrypt; and of one of eleven bytes. -/
theorem encrypt_unchecked_answers_short :
    (∃ blocks : List Bytes, encrypt .pkcs1 (.ofSeed 0) [1, 2] ⟨2 ^ 95 + 1, 3⟩
      none = .ok blocks.flatten ∧
      blocks.flatten.length = 24) ∧
    encrypt .pkcs1 (.ofSeed 0) [1, 2] ⟨2 ^ 95 + 1, 3⟩ (some ⟨some "door"⟩) =
      .error (.invalidParameters
        "Oaep \x7b label: Some(\"door\") \x7d cannot be used with PKCS#1 v1.5 padding") ∧
    encrypt .pkcs1 (.ofSeed 0) [] ⟨2 ^ 95, 3⟩ none =
      .error (.invalidKey "invalid modulus") ∧
    encrypt (.oaep .sha256) (.ofSeed 0) [1, 2] ⟨2 ^ 87 + 1, 3⟩ none =
      .error (.invalidKey
        "modulus of 11 bytes is too small for Oaep(Sha256)") := by
  refine ⟨?_, ?_, ?_, ?_⟩
  · obtain ⟨_, _, _, _, passes, _⟩ :=
      encrypt_unchecked_answers .pkcs1 ⟨2 ^ 95 + 1, 3⟩ none (.ofSeed 0) [1, 2]
    obtain ⟨blocks, encrypted, length, _⟩ :=
      passes (by decide) (fun _ => rfl) (by decide)
    exact ⟨blocks, encrypted, length⟩
  · obtain ⟨_, _, unfit, _⟩ := encrypt_unchecked_answers .pkcs1 ⟨2 ^ 95 + 1, 3⟩
      (some ⟨some "door"⟩) (.ofSeed 0) [1, 2]
    exact unfit (by decide) _ rfl rfl
  · obtain ⟨_, _, _, refused, _⟩ :=
      encrypt_unchecked_answers .pkcs1 ⟨2 ^ 95, 3⟩ none (.ofSeed 0) []
    exact refused (by decide) (fun _ => rfl) .invalidModulus (by decide)
  · obtain ⟨_, narrow, _⟩ := encrypt_unchecked_answers (.oaep .sha256)
      ⟨2 ^ 87 + 1, 3⟩ none (.ofSeed 0) [1, 2]
    exact narrow (by decide)

end BlockCipher

end BoundKey
