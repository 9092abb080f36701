import BoundKey.Proofs.Manager.Encryption
import BoundKey.Proofs.Manager.Missing
import BoundKey.Proofs.Rsa.Fresh
import BoundKey.Proofs.Rsa.Pss

set_option autoImplicit false

/-!
Why work with a key fails, in the standard wiring. The causes are ranked: of
several that hold, the first settles the failure. With a fresh key of 2048 bits
or more there are no others, because every padding has room in its blocks and
the two operations on the key undo each other.
-/

namespace BoundKey

/-! ### Ranked causes -/

/-- A result is settled by causes of failure, each with its failure, in their
order: it is the failure of the first cause that holds, and a value if none
holds. -/
def FailsBy {α : Type} (result : Except Failure α) : List (Failure × Prop) → Prop
  | [] => ∃ value, result = .ok value
  | (failure, cause) :: later =>
      (result = .error failure ↔ cause) ∧ (¬ cause → FailsBy result later)

namespace FailsBy

variable {α β : Type} {result : Except Failure α} {failure : Failure}
  {cause : Prop} {causes later : List (Failure × Prop)}

theorem mem_of_error (fails : FailsBy result causes)
    (failed : result = .error failure) : failure ∈ causes.map Prod.fst := by
  induction causes with
  | nil =>
      obtain ⟨value, succeeds⟩ := fails
      cases succeeds.symm.trans failed
  | cons first rest ih =>
      obtain ⟨firstFailure, firstCause⟩ := first
      obtain ⟨settled, otherwise⟩ := fails
      by_cases holds : firstCause
      · have same : firstFailure = failure :=
          Except.error.inj ((settled.2 holds).symm.trans failed)
        rw [List.map_cons, same]
        exact List.mem_cons_self
      · exact List.mem_cons_of_mem _ (ih (otherwise holds))

theorem holds (fails : result = .error failure) (present : cause) :
    FailsBy result ((failure, cause) :: later) :=
  ⟨⟨fun _ => present, fun _ => fails⟩, fun absent => absurd present absent⟩

theorem passed (absent : ¬ cause) (alone : failure ∉ later.map Prod.fst)
    (fails : FailsBy result later) :
    FailsBy result ((failure, cause) :: later) :=
  ⟨⟨fun failed => absurd (fails.mem_of_error failed) alone,
    fun present => absurd present absent⟩, fun _ => fails⟩

theorem map (fails : FailsBy result causes) (change : α → β) :
    FailsBy (result.map change) causes := by
  induction causes with
  | nil =>
      obtain ⟨value, succeeds⟩ := fails
      exact ⟨change value, congrArg (Except.map change) succeeds⟩
  | cons first rest ih =>
      obtain ⟨firstFailure, firstCause⟩ := first
      obtain ⟨settled, otherwise⟩ := fails
      exact ⟨map_eq_error_iff.trans settled, fun absent => ih (otherwise absent)⟩

/-- Work on a value fails for the causes that there is none, and then for its
own. -/
theorem bind {next : α → Except Failure β} (fails : FailsBy result causes)
    (apart : ∀ failure ∈ causes.map Prod.fst, failure ∉ later.map Prod.fst)
    (further : ∀ value, result = .ok value → FailsBy (next value) later) :
    FailsBy (result >>= next) (causes ++ later) := by
  induction causes with
  | nil =>
      obtain ⟨value, succeeds⟩ := fails
      rw [succeeds]
      exact further value succeeds
  | cons first rest ih =>
      obtain ⟨firstFailure, firstCause⟩ := first
      obtain ⟨settled, otherwise⟩ := fails
      have apartRest : ∀ failure ∈ rest.map Prod.fst,
          failure ∉ later.map Prod.fst :=
        fun failure listed => apart failure (List.mem_cons_of_mem _ listed)
      refine ⟨?_, fun absent => ih (otherwise absent) apartRest⟩
      rw [← settled, bind_eq_error_iff]
      constructor
      · rintro (failed | ⟨value, worked, failed⟩)
        · exact failed
        · exact absurd ((further value worked).mem_of_error failed)
            (apart firstFailure List.mem_cons_self)
      · exact .inl

end FailsBy

/-! ### Signing -/

def SigningAlgorithm.causes (algorithm : SigningAlgorithm) (size : Nat)
    (message : Bytes) : List (Failure × Prop) :=
  [(.algorithmUnsupported "Missing signer: `MD5withRSA`", algorithm = .md5),
    (.signingFailure (.couldNotSign "message too long"), algorithm = .none ∧
      size - 11 < message.length)]

namespace Manager

variable {manager : Manager} {entry : KeyEntry} {bits : Nat}

theorem signature_of_signer (standard : manager.provider = .standard)
    {algorithm : SigningAlgorithm} {signer : Signer}
    (found : algorithm.signer? = some signer) (tape : Tape) (message : Bytes) :
    manager.signature algorithm tape message entry =
      (signer.sign tape message entry.privateKey).mapError .ofSigner := by
  rw [signature, signer_standard standard, found]
  rfl

theorem signature_described (standard : manager.provider = .standard)
    (fresh : entry.privateKey.IsFresh bits)
    (large : 2048 ≤ bits) {algorithm : SigningAlgorithm} {digest : Digest}
    (found : algorithm.signer? = some (.pkcs1 digest)) (tape : Tape)
    (message : Bytes) :
    ∃ signature, manager.signature algorithm tape message entry =
      .ok signature := by
  have fits : (Rsa.Pkcs1.digestInfo digest message).length +
      Rsa.Pkcs1.overhead ≤ entry.privateKey.size := by
    have short : 19 + digest.size + 11 ≤ 256 := by cases digest <;> decide
    rw [Rsa.Pkcs1.digestInfo_length, fresh.size_eq]
    exact Nat.le_trans short (by omega)
  obtain ⟨signature, made⟩ := Rsa.Pkcs1.sign_ok fresh.sound fits
  exact ⟨signature, (signature_of_signer standard found tape message).trans
    (mapError_eq_ok_iff.2 (mapError_eq_ok_iff.2 made))⟩

theorem signature_salted (standard : manager.provider = .standard)
    (fresh : entry.privateKey.IsFresh bits)
    (large : 2048 ≤ bits) {algorithm : SigningAlgorithm} {digest : Digest}
    (found : algorithm.signer? = some (.pss digest)) (tape : Tape)
    (message : Bytes) :
    ∃ signature, manager.signature algorithm tape message entry =
      .ok signature := by
  have room : 2 * digest.size + 2 ≤
      Rsa.Pss.encodedSize (bitLength entry.privateKey.modulus - 1) := by
    have short : 2 * digest.size + 2 ≤ 256 := by cases digest <;> decide
    rw [fresh.sized, Rsa.Pss.encodedSize]
    omega
  obtain ⟨signature, made⟩ := Rsa.Pss.sign_ok fresh.sound room tape message
  exact ⟨signature, (signature_of_signer standard found tape message).trans
    (mapError_eq_ok_iff.2 (mapError_eq_ok_iff.2 made))⟩

theorem failsBy_signature (standard : manager.provider = .standard)
    (fresh : entry.privateKey.IsFresh bits)
    (large : 2048 ≤ bits) (algorithm : SigningAlgorithm) (tape : Tape)
    (message : Bytes) : FailsBy (manager.signature algorithm tape message entry)
      (algorithm.causes ((bits + 7) / 8) message) := by
  have size := fresh.size_eq
  -- Where neither cause holds, it is left to show that there is a signature.
  have supported (other : algorithm ≠ .md5)
      (short : ¬ (algorithm = .none ∧ (bits + 7) / 8 - 11 < message.length))
      (signed : ∃ signature, manager.signature algorithm tape message entry =
        .ok signature) :
      FailsBy (manager.signature algorithm tape message entry)
        (algorithm.causes ((bits + 7) / 8) message) :=
    .passed other (by simp) (.passed short List.not_mem_nil signed)
  cases algorithm with
  | md5 =>
      refine .holds ?_ rfl
      rw [signature, signer_standard standard]
      rfl
  | none =>
      have found : SigningAlgorithm.none.signer? = some .raw := rfl
      have raw : manager.signature .none tape message entry =
          ((Rsa.Pkcs1.sign entry.privateKey message).mapError
            SignerFault.ofRsa).mapError .ofSigner :=
        signature_of_signer standard found tape message
      by_cases long : (bits + 7) / 8 - 11 < message.length
      · have refused : Rsa.Pkcs1.sign entry.privateKey message =
            .error .messageTooLong := by
          apply Rsa.Pkcs1.sign_of_long
          change entry.privateKey.size < message.length + 11
          omega
        refine .passed (by decide) (by simp) (.holds ?_ ⟨rfl, long⟩)
        rw [raw, refused]
        rfl
      · have fits : message.length + Rsa.Pkcs1.overhead ≤
            entry.privateKey.size := by
          change message.length + 11 ≤ entry.privateKey.size
          omega
        obtain ⟨signature, made⟩ := Rsa.Pkcs1.sign_ok fresh.sound fits
        exact supported (by decide) (fun both => long both.2)
          ⟨signature, raw.trans
            (mapError_eq_ok_iff.2 (mapError_eq_ok_iff.2 made))⟩
  | sha256 | sha384 | sha512 =>
      apply supported
      · decide
      · simp only [reduceCtorEq, false_and, not_false_eq_true]
      · exact signature_described standard fresh large rfl tape message
  | sha256Pss | sha384Pss | sha512Pss =>
      apply supported
      · decide
      · simp only [reduceCtorEq, false_and, not_false_eq_true]
      · exact signature_salted standard fresh large rfl tape message

end Manager

/-! ### Encrypting and decrypting -/

def CipherAlgorithm.padding? : CipherAlgorithm → Option RsaPadding
  | pkcs1 => some .pkcs1
  | oaepSha1 | oaepSha1Single => none
  | oaepSha256 => some (.oaep .sha256)
  | oaepSha384 => some (.oaep .sha384)
  | oaepSha512 => some (.oaep .sha512)

theorem CipherAlgorithm.cipher?_eq (algorithm : CipherAlgorithm) :
    algorithm.cipher? = algorithm.padding?.map .rsa := by
  cases algorithm with
  | _ => rfl

theorem RsaPadding.overhead_lt (padding : RsaPadding) :
    padding.overhead < 256 := by
  cases padding with
  | pkcs1 => decide
  | oaep digest => cases digest <;> decide

namespace CipherSpec

def label (spec : CipherSpec) : Bytes :=
  ((spec.parameters.bind (·.label)).map Utf8.encode).getD []

def complaint (spec : CipherSpec) : String :=
  ((spec.parameters.map (·.describe)).getD "")
    ++ " cannot be used with PKCS#1 v1.5 padding"

def causes (spec : CipherSpec) : List (Failure × Prop) :=
  [(.paddingUnsupported s!"Missing cipher: `{spec.algorithm.name}`",
      spec.algorithm = .oaepSha1 ∨ spec.algorithm = .oaepSha1Single),
    (.invalidAlgorithmParameters spec.complaint, spec.algorithm = .pkcs1 ∧
      spec.parameters ≠ none)]

theorem kinds (spec : CipherSpec) :
    ((spec.algorithm = .oaepSha1 ∨ spec.algorithm = .oaepSha1Single) ∧
      spec.algorithm.padding? = none) ∨
    ¬ (spec.algorithm = .oaepSha1 ∨ spec.algorithm = .oaepSha1Single) ∧ ∃ padding,
      spec.algorithm.padding? = some padding ∧
      ((spec.algorithm = .pkcs1 ∧ spec.parameters ≠ none) ∧
          BlockCipher.labelBytes padding spec.parameters =
            .error (.invalidParameters spec.complaint) ∨
        ¬ (spec.algorithm = .pkcs1 ∧ spec.parameters ≠ none) ∧
          BlockCipher.labelBytes padding spec.parameters = .ok spec.label) := by
  obtain ⟨algorithm, parameters⟩ := spec
  cases algorithm with
  | oaepSha1 => exact .inl ⟨.inl rfl, rfl⟩
  | oaepSha1Single => exact .inl ⟨.inr rfl, rfl⟩
  | pkcs1 =>
      refine .inr ⟨nofun, .pkcs1, rfl, ?_⟩
      cases parameters with
      | none => exact .inr ⟨fun both => both.2 rfl, rfl⟩
      | some given => exact .inl ⟨⟨rfl, nofun⟩, rfl⟩
  | oaepSha256 | oaepSha384 | oaepSha512 =>
      refine .inr ⟨nofun, _, rfl, .inr ⟨nofun, ?_⟩⟩
      cases parameters with
      | none => rfl
      | some given => rfl

def Opens (spec : CipherSpec) (key : Rsa.PublicKey) (block : Bytes) : Prop :=
  ∃ padding, spec.algorithm.padding? = some padding ∧
    BlockCipher.Opens padding spec.label key block

theorem opens_iff {spec : CipherSpec} {padding : RsaPadding}
    (found : spec.algorithm.padding? = some padding)
    {key : Rsa.PublicKey} {block : Bytes} :
    spec.Opens key block ↔ BlockCipher.Opens padding spec.label key block := by
  constructor
  · rintro ⟨other, foundOther, opened⟩
    cases foundOther.symm.trans found
    exact opened
  · exact fun opened => ⟨padding, found, opened⟩

/-- Why a ciphertext is not decrypted with a key of so many bytes, given which
blocks are opened. -/
def decryptionCauses (spec : CipherSpec) (size : Nat) (opens : Bytes → Prop)
    (ciphertext : Bytes) : List (Failure × Prop) :=
  spec.causes ++ [
    (.blockSizeMismatch
      s!"ciphertext of {ciphertext.length} bytes is not a multiple of {size}",
      ciphertext = [] ∨ ¬ size ∣ ciphertext.length),
    (.encryptionPaddingViolation "Bad padding",
      ∃ block ∈ chunks size ciphertext, ¬ opens block)]

end CipherSpec

namespace Manager

variable {manager : Manager} {entry : KeyEntry} {bits : Nat}

theorem failsBy_cipher (standard : manager.provider = .standard) {α : Type}
    (spec : CipherSpec) {run : Cipher → Except CipherFault α}
    {later : List (Failure × Prop)}
    (noPadding : ∀ detail, .paddingUnsupported detail ∉ later.map Prod.fst)
    (noParameters : ∀ detail, .invalidAlgorithmParameters detail ∉
      later.map Prod.fst)
    (refused : ∀ padding fault, BlockCipher.labelBytes padding spec.parameters =
      .error fault →
      run (.rsa padding) = .error fault)
    (worked : ∀ padding, spec.algorithm.padding? = some padding →
      BlockCipher.labelBytes padding spec.parameters = .ok spec.label →
      FailsBy ((run (.rsa padding)).mapError .ofCipher) later) :
    FailsBy (manager.cipher spec.algorithm >>= fun cipher =>
      (run cipher).mapError .ofCipher) (spec.causes ++ later) := by
  have looked := cipher_standard standard spec.algorithm
  rw [CipherAlgorithm.cipher?_eq] at looked
  obtain ⟨unsupported, missing⟩ | ⟨supported, padding, found, refusal⟩ :=
    spec.kinds
  · rw [missing] at looked
    rw [looked]
    exact .holds rfl unsupported
  · rw [found] at looked
    rw [looked]
    have otherFailure : ∀ detail, Failure.paddingUnsupported detail ∉
        ((.invalidAlgorithmParameters spec.complaint, spec.algorithm = .pkcs1 ∧
          spec.parameters ≠ none) :: later).map Prod.fst :=
      fun detail => List.not_mem_cons_of_ne_of_not_mem nofun (noPadding detail)
    obtain ⟨given, faulty⟩ | ⟨fitting, labelled⟩ := refusal
    · refine .passed supported (otherFailure _) (.holds ?_ given)
      exact congrArg (Except.mapError Failure.ofCipher) (refused padding _ faulty)
    · exact .passed supported (otherFailure _)
        (.passed fitting (noParameters _) (worked padding found labelled))

theorem failsBy_ciphertext (standard : manager.provider = .standard)
    (fresh : entry.privateKey.IsFresh bits)
    (large : 2048 ≤ bits) (spec : CipherSpec) (tape : Tape) (message : Bytes) :
    FailsBy (manager.ciphertext spec tape message entry) spec.causes := by
  have room (padding : RsaPadding) :
      padding.overhead < entry.privateKey.size := by
    have short := padding.overhead_lt
    rw [fresh.size_eq]
    omega
  rw [← List.append_nil spec.causes]
  apply failsBy_cipher standard spec (fun _ => List.not_mem_nil)
    (fun _ => List.not_mem_nil)
  · intro padding fault faulty
    change BlockCipher.encrypt padding tape message entry.privateKey.publicKey
      spec.parameters = _
    rw [BlockCipher.encrypt, Rsa.PrivateKey.publicKey_size,
      BlockCipher.pieceSize_of_room (room padding), faulty]
    rfl
  · intro padding _ labelled
    obtain ⟨ciphertext, encrypted, _⟩ :=
      BlockCipher.decrypt_encrypt fresh.sound fresh.usable (room padding)
        labelled tape message
    exact ⟨ciphertext, mapError_eq_ok_iff.2 encrypted⟩

theorem failsBy_deciphered (standard : manager.provider = .standard)
    (fresh : entry.privateKey.IsFresh bits)
    (large : 2048 ≤ bits) (spec : CipherSpec) (ciphertext : Bytes) :
    FailsBy (manager.deciphered spec ciphertext entry)
      (spec.decryptionCauses ((bits + 7) / 8) (spec.Opens entry.publicKey)
        ciphertext) := by
  have size := fresh.size_eq
  have room (padding : RsaPadding) :
      padding.overhead < entry.privateKey.size := by
    have short := padding.overhead_lt
    omega
  apply failsBy_cipher standard spec (by simp) (by simp)
  · intro padding fault faulty
    change BlockCipher.decrypt padding ciphertext entry.privateKey
      spec.parameters = _
    rw [BlockCipher.decrypt, BlockCipher.pieceSize_of_room (room padding), faulty]
    rfl
  · intro padding found labelled
    have measured : (Cipher.rsa padding).decrypt ciphertext entry.privateKey
        spec.parameters = _ :=
      BlockCipher.decrypt_of_room (room padding) labelled ciphertext
    obtain ⟨opened, shut⟩ :=
      BlockCipher.decryptBlocks_opens padding fresh.sound spec.label
      (chunks entry.privateKey.size ciphertext)
    rw [measured, ← size]
    by_cases broken : ciphertext = [] ∨
      ¬ entry.privateKey.size ∣ ciphertext.length
    · rw [if_pos broken]
      exact .holds rfl broken
    · rw [if_neg broken]
      by_cases closed : ∃ block ∈ chunks entry.privateKey.size ciphertext,
        ¬ spec.Opens entry.publicKey block
      · refine .passed broken (by simp) (.holds ?_ closed)
        simp only [CipherSpec.opens_iff found] at closed
        rw [shut closed]
        rfl
      · refine .passed broken (by simp) (.passed closed List.not_mem_nil ?_)
        simp only [CipherSpec.opens_iff found, not_exists, not_and,
          not_not] at closed
        obtain ⟨message, decrypted⟩ := opened closed
        exact ⟨message, mapError_eq_ok_iff.2 decrypted⟩

end Manager

end BoundKey
