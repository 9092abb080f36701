import BoundKey.Proofs.Crypto.BlockCipher
import BoundKey.Proofs.Rsa.Padding

set_option autoImplicit false

/-!
Which byte strings are ciphertexts. A block is decrypted to a message exactly if
it is the image of a padded block that carries this message, and a row of blocks
is decrypted to the messages of its blocks joined; so what is decrypted is what
can be encrypted, and the blocks do not depend on one another.
-/

namespace BoundKey

namespace RsaPadding

def Carries (padding : RsaPadding) (label block message : Bytes) : Prop :=
  match padding with
  | pkcs1 => Rsa.Pkcs1.Carries block message
  | oaep digest => Rsa.Oaep.Carries digest label block message

theorem unpad_eq_some_iff {padding : RsaPadding} {label block message : Bytes} :
    padding.unpad label block = some message ↔
      padding.Carries label block message := by
  cases padding with
  | pkcs1 => exact Rsa.Pkcs1.message?_eq_some_iff
  | oaep digest => exact Rsa.Oaep.message?_eq_some_iff

theorem carries_iff_padded {padding : RsaPadding} {label block message : Bytes}
    {size : Nat} : block.length = size ∧ padding.Carries label block message ↔
      ∃ tape, padding.pad label tape size message = some block := by
  cases padding with
  | pkcs1 => exact Rsa.Pkcs1.carries_iff_padded
  | oaep digest => exact Rsa.Oaep.carries_iff_padded

theorem Carries.toNat_lt {padding : RsaPadding} {label padded message : Bytes}
    {key : Rsa.PublicKey} (carries : padding.Carries label padded message)
    (sized : padded.length = key.size) : Bytes.toNat padded < key.modulus := by
  obtain ⟨rest, led⟩ : ∃ rest, padded = 0 :: rest := by
    cases padding with
    | pkcs1 =>
        obtain ⟨filling, _, _, same⟩ := carries
        exact ⟨_, same⟩
    | oaep digest =>
        obtain ⟨seed, masked, _, _, _, same⟩ := carries
        exact ⟨_, same⟩
  subst led
  exact Rsa.toNat_lt_modulus sized

end RsaPadding

namespace BlockCipher

/-- A block is an encryption of a piece: the image of a padded block that
carries it. -/
def Encrypts (padding : RsaPadding) (label : Bytes) (key : Rsa.PublicKey)
    (piece block : Bytes) : Prop :=
  ∃ padded : Bytes, padded.length = key.size ∧
    padding.Carries label padded piece ∧
    block = Bytes.bigEndian key.size
      (Bytes.toNat padded ^ key.exponent % key.modulus)

variable {padding : RsaPadding} {label : Bytes}

/-- With a key that passes its check, these are the blocks that encrypting the
piece makes. -/
theorem encrypts_iff_encryptPiece
    {key : Rsa.PublicKey} (checked : key.check = .ok ()) {piece block : Bytes} :
    Encrypts padding label key piece block ↔
      ∃ tape, encryptPiece padding label key tape piece = .ok block := by
  have image (padded : Bytes) : key.apply (Bytes.toNat padded) =
      Bytes.toNat padded ^ key.exponent % key.modulus := by
    rw [Rsa.PublicKey.apply, Rsa.powMod_eq]
  constructor
  · intro encrypts
    obtain ⟨padded, sized, carries, same⟩ := encrypts
    obtain ⟨tape, made⟩ := RsaPadding.carries_iff_padded.1 ⟨sized, carries⟩
    refine ⟨tape, ?_⟩
    rw [encryptPiece, checked, made, same]
    dsimp only
    rw [image]
  · intro encrypted
    obtain ⟨tape, made⟩ := encrypted
    rw [encryptPiece, checked] at made
    dsimp only at made
    split at made
    · cases made
    · next padded found =>
        obtain ⟨sized, carries⟩ := RsaPadding.carries_iff_padded.2 ⟨tape, found⟩
        refine ⟨padded, sized, carries, ?_⟩
        rw [← image]
        exact (Except.ok.inj made).symm

variable {key : Rsa.PrivateKey}

/-! ### One block -/

theorem Encrypts.length_eq {key : Rsa.PublicKey} {piece block : Bytes}
    (encrypts : Encrypts padding label key piece block) :
    block.length = key.size := by
  obtain ⟨padded, _, _, same⟩ := encrypts
  rw [same, Bytes.bigEndian_length]

theorem Encrypts.toNat_lt (sound : key.IsSound) {piece block : Bytes}
    (encrypts : Encrypts padding label key.publicKey piece block) :
    Bytes.toNat block < key.modulus := by
  obtain ⟨padded, _, _, same⟩ := encrypts
  have image : Bytes.toNat padded ^ key.publicExponent % key.modulus <
      key.modulus := Nat.mod_lt _ sound.modulus_pos
  have value : Bytes.toNat block =
      Bytes.toNat padded ^ key.publicExponent % key.modulus := by
    rw [same]
    exact Bytes.toNat_bigEndian (Rsa.PrivateKey.lt_pow_size image)
  rw [value]
  exact image

theorem decryptBlock_eq_ok_iff (sound : key.IsSound) {block piece : Bytes}
    (sized : block.length = key.size) :
    decryptBlock padding label key block = .ok piece ↔
      Encrypts padding label key.publicKey piece block := by
  have image (padded : Bytes) : key.publicKey.apply (Bytes.toNat padded) =
      Bytes.toNat padded ^ key.publicKey.exponent % key.publicKey.modulus := by
    rw [Rsa.PublicKey.apply, Rsa.powMod_eq]
  constructor
  · intro decrypted
    rw [decryptBlock] at decrypted
    split at decrypted
    · cases decrypted
    · next value applied =>
        obtain ⟨small, below, led⟩ := sound.apply_eq_ok_iff.1 applied
        have read := Bytes.toNat_bigEndian (Rsa.PrivateKey.lt_pow_size below)
        split at decrypted
        · next found unpadded =>
            cases decrypted
            have carries := RsaPadding.unpad_eq_some_iff.1 unpadded
            refine ⟨Bytes.bigEndian key.size value,
              Bytes.bigEndian_length _ _, carries, ?_⟩
            rw [← image, read, led]
            exact Bytes.eq_bigEndian sized rfl
        · cases decrypted
  · intro encrypts
    have small := encrypts.toNat_lt sound
    obtain ⟨padded, wide, carries, same⟩ := encrypts
    have led : key.publicKey.apply (Bytes.toNat padded) = Bytes.toNat block := by
      rw [same, ← image]
      exact (Bytes.toNat_bigEndian
        (Rsa.PrivateKey.lt_pow_size
          (image padded ▸ Nat.mod_lt _ sound.modulus_pos))).symm
    have applied := sound.apply_eq_ok_iff.2 ⟨small, carries.toNat_lt wide, led⟩
    rw [decryptBlock, applied]
    dsimp only
    rw [← key.publicKey_size, ← Bytes.eq_bigEndian wide rfl,
      RsaPadding.unpad_eq_some_iff.2 carries]

/-! ### Rows of blocks -/

theorem forall_of_encrypt {key : Rsa.PublicKey} {pieces blocks : List Bytes}
    {holds : Bytes → Prop}
    (encrypt : List.Forall₂ (Encrypts padding label key) pieces blocks)
    (each : ∀ piece block, Encrypts padding label key piece block → holds block) :
    ∀ block ∈ blocks, holds block := by
  induction encrypt with
  | nil => simp
  | cons first rest ih =>
      intro block member
      rcases List.mem_cons.1 member with here | later
      · rw [here]
        exact each _ _ first
      · exact ih block later

theorem decryptBlocks_eq_ok_iff (sound : key.IsSound) {blocks : List Bytes}
    (sized : ∀ block ∈ blocks, block.length = key.size) {message : Bytes} :
    decryptBlocks padding label key blocks = .ok message ↔
      ∃ pieces, List.Forall₂ (Encrypts padding label key.publicKey) pieces
        blocks ∧ pieces.flatten = message := by
  induction blocks generalizing message with
  | nil =>
      simp only [decryptBlocks, List.forall₂_nil_right_iff, exists_eq_left,
        List.flatten_nil, Except.ok.injEq]
  | cons block rest ih =>
      have first := sized block List.mem_cons_self
      have later : ∀ other ∈ rest, other.length = key.size :=
        fun other member => sized other (List.mem_cons_of_mem block member)
      simp only [decryptBlocks, bind_eq_ok_iff, mapError_eq_ok_iff,
        decryptBlock_eq_ok_iff sound first, ih later,
        List.forall₂_cons_right_iff]
      constructor
      · intro decrypted
        obtain ⟨piece, encrypts, others, ⟨pieces, encryptRest, joined⟩, same⟩ :=
          decrypted
        refine ⟨piece :: pieces, ⟨piece, pieces, encrypts, encryptRest, rfl⟩, ?_⟩
        rw [List.flatten_cons, joined]
        exact Except.ok.inj same
      · intro encrypted
        obtain ⟨_, ⟨piece, pieces, encrypts, encryptRest, rfl⟩, joined⟩ :=
          encrypted
        exact ⟨piece, encrypts, pieces.flatten, ⟨pieces, encryptRest, rfl⟩,
          congrArg _ joined⟩

theorem decryptBlocks_eq_badPadding (sound : key.IsSound) {blocks : List Bytes}
    (refused : ∀ message, decryptBlocks padding label key blocks ≠ .ok message) :
    decryptBlocks padding label key blocks = .error .badPadding := by
  obtain ⟨opened, shut⟩ := decryptBlocks_opens padding sound label blocks
  by_cases all : ∀ block ∈ blocks, Opens padding label key.publicKey block
  · obtain ⟨message, decrypted⟩ := opened all
    exact absurd decrypted (refused message)
  · simp only [not_forall, exists_prop] at all
    exact shut all

theorem decryptBlocks_append (blocks others : List Bytes) :
    decryptBlocks padding label key (blocks ++ others) = (do
      let message ← decryptBlocks padding label key blocks
      let rest ← decryptBlocks padding label key others
      .ok (message ++ rest)) := by
  induction blocks with
  | nil =>
      change _ = decryptBlocks padding label key others >>= Except.ok
      rw [List.nil_append]
      cases decryptBlocks padding label key others <;> rfl
  | cons block rest ih =>
      rw [List.cons_append, decryptBlocks, ih, decryptBlocks]
      cases (decryptBlock padding label key block).mapError decryptFault with
      | error fault => rfl
      | ok piece =>
          cases decryptBlocks padding label key rest with
          | error fault => rfl
          | ok pieces =>
              cases decryptBlocks padding label key others with
              | error fault => rfl
              | ok more =>
                  exact congrArg Except.ok
                    (List.append_assoc piece pieces more).symm

/-! ### Ciphertexts -/

/-- A byte string is decrypted to a message exactly if it is a row of one or
more blocks that encrypt pieces of the message in order. -/
theorem decrypt_eq_ok_iff (sound : key.IsSound)
    (room : padding.overhead < key.size) {given : Option CipherParameters}
    (labelled : labelBytes padding given = .ok label)
    {ciphertext message : Bytes} :
    decrypt padding ciphertext key given = .ok message ↔
      ∃ blocks pieces, blocks ≠ [] ∧ blocks.flatten = ciphertext ∧
      pieces.flatten = message ∧
      List.Forall₂ (Encrypts padding label key.publicKey) pieces blocks := by
  have positive : 0 < key.size := Nat.zero_lt_of_lt room
  rw [decrypt_of_room room labelled]
  constructor
  · intro decrypted
    split at decrypted
    · cases decrypted
    · next whole =>
        obtain ⟨present, divides⟩ := not_or.1 whole
        have each : ∀ block ∈ chunks key.size ciphertext,
            block.length = key.size :=
          fun block => length_of_mem_chunks (not_not.1 divides)
        obtain ⟨pieces, encrypt, joined⟩ :=
          (decryptBlocks_eq_ok_iff sound each).1 decrypted
        refine ⟨chunks key.size ciphertext, pieces, ?_,
          flatten_chunks positive ciphertext, joined, encrypt⟩
        rw [chunks_of_ne_nil positive present]
        exact List.cons_ne_nil _ _
  · intro encrypted
    obtain ⟨blocks, pieces, some, rfl, joined, encrypt⟩ := encrypted
    have each : ∀ block ∈ blocks, block.length = key.size :=
      forall_of_encrypt encrypt fun _ _ => Encrypts.length_eq
    have length := length_flatten_of_sized each
    have present : blocks.flatten ≠ [] := by
      rw [← List.length_pos_iff, length]
      exact Nat.mul_pos positive (List.length_pos_iff.2 some)
    have divides : key.size ∣ blocks.flatten.length :=
      length ▸ Nat.dvd_mul_right key.size blocks.length
    rw [if_neg (not_or.2 ⟨present, not_not.2 divides⟩),
      chunks_flatten positive each, decryptBlocks_eq_ok_iff sound each]
    exact ⟨pieces, encrypt, joined⟩

/-- What is decrypted is what can be encrypted. A byte string that is no row of
whole blocks is refused for its length, and any other that is not decrypted for
its padding, as is one with a block that is not below the modulus. The blocks do
not depend on one another: two rows of blocks in a row are decrypted one after
the other. -/
theorem decrypt_accepts_encrypted
    (sound : key.IsSound) (room : padding.overhead < key.size)
    {given : Option CipherParameters}
    (labelled : labelBytes padding given = .ok label) (ciphertext : Bytes) :
    (∀ message, decrypt padding ciphertext key given = .ok message ↔
      ∃ blocks pieces, blocks ≠ [] ∧ blocks.flatten = ciphertext ∧
        pieces.flatten = message ∧
        List.Forall₂ (Encrypts padding label key.publicKey) pieces blocks) ∧
    (key.publicKey.check = .ok () →
      ∀ piece block, Encrypts padding label key.publicKey piece block ↔
      ∃ tape, encryptPiece padding label key.publicKey tape piece = .ok block) ∧
    (ciphertext = [] ∨ ¬ key.size ∣ ciphertext.length →
      decrypt padding ciphertext key given =
        .error (.blockSize
          s!"ciphertext of {ciphertext.length} bytes is not a multiple of {key.size}")) ∧
    (ciphertext ≠ [] → key.size ∣ ciphertext.length →
      ((∀ message, decrypt padding ciphertext key given ≠ .ok message) →
        decrypt padding ciphertext key given = .error .badPadding) ∧
      ((∃ block ∈ chunks key.size ciphertext, key.modulus ≤ Bytes.toNat block) →
        decrypt padding ciphertext key given = .error .badPadding) ∧
      ∀ other, other ≠ [] → key.size ∣ other.length →
        decrypt padding (ciphertext ++ other) key given = (do
          let message ← decrypt padding ciphertext key given
          let rest ← decrypt padding other key given
          .ok (message ++ rest))) := by
  have positive : 0 < key.size := Nat.zero_lt_of_lt room
  have whole {text : Bytes} (present : text ≠ [])
      (divides : key.size ∣ text.length) :
      decrypt padding text key given =
        decryptBlocks padding label key (chunks key.size text) := by
    rw [decrypt_of_room room labelled,
      if_neg (not_or.2 ⟨present, not_not.2 divides⟩)]
  refine ⟨fun message => decrypt_eq_ok_iff sound room labelled,
    fun checked piece block => encrypts_iff_encryptPiece checked, ?_, ?_⟩
  · intro part
    rw [decrypt_of_room room labelled, if_pos part]
  · intro present divides
    have refused
        (none : ∀ message, decrypt padding ciphertext key given ≠ .ok message) :
        decrypt padding ciphertext key given = .error .badPadding := by
      rw [whole present divides] at none ⊢
      exact decryptBlocks_eq_badPadding sound none
    refine ⟨refused, ?_, ?_⟩
    · intro large
      obtain ⟨block, member, above⟩ := large
      refine refused ?_
      intro message decrypted
      rw [whole present divides] at decrypted
      obtain ⟨pieces, encrypt, _⟩ := (decryptBlocks_eq_ok_iff sound
        fun block => length_of_mem_chunks divides).1 decrypted
      have below : Bytes.toNat block < key.modulus :=
        forall_of_encrypt encrypt
          (fun _ _ => Encrypts.toNat_lt sound) block member
      exact absurd below (Nat.not_lt.2 above)
    · intro other otherPresent otherDivides
      have joined : key.size ∣ (ciphertext ++ other).length := by
        rw [List.length_append]
        exact Nat.dvd_add divides otherDivides
      rw [whole (List.append_ne_nil_of_left_ne_nil present other) joined,
        whole present divides, whole otherPresent otherDivides,
        chunks_append_of_dvd positive divides, decryptBlocks_append]

/-- The case of a key of two Mersenne primes: a ciphertext is decrypted, and
twice as long twice; one that is cut short and one whose number is not below the
modulus are refused. -/
theorem decrypt_accepts_encrypted_mersenne :
    Rsa.mersenneKey.IsSound ∧ RsaPadding.pkcs1.overhead < Rsa.mersenneKey.size ∧
    (∃ ciphertext, decrypt .pkcs1 ciphertext Rsa.mersenneKey none =
      .ok [104, 105] ∧
      (∃ blocks pieces, blocks ≠ [] ∧ blocks.flatten = ciphertext ∧
        pieces.flatten = [104, 105] ∧
        List.Forall₂ (Encrypts .pkcs1 [] Rsa.mersenneKey.publicKey)
          pieces blocks) ∧
      decrypt .pkcs1 (ciphertext ++ ciphertext) Rsa.mersenneKey none =
        .ok [104, 105, 104, 105]) ∧
    decrypt .pkcs1 [0] Rsa.mersenneKey none =
      .error (.blockSize "ciphertext of 1 bytes is not a multiple of 352") ∧
    decrypt .pkcs1 (List.replicate 352 255) Rsa.mersenneKey none =
      .error .badPadding := by
  have sound := Rsa.mersenneKey_isSound
  have checked : Rsa.mersenneKey.publicKey.check = .ok () := by decide +kernel
  have size : Rsa.mersenneKey.size = 352 := by decide +kernel
  have room : RsaPadding.pkcs1.overhead < Rsa.mersenneKey.size :=
    size ▸ (by decide : 11 < 352)
  have labelled : labelBytes .pkcs1 none = .ok [] := rfl
  have accepts := decrypt_accepts_encrypted sound room labelled
  refine ⟨sound, room, ?_, ?_, ?_⟩
  · obtain ⟨ciphertext, _, sized, decrypts⟩ :=
      decrypt_encrypt sound checked room labelled (.ofSeed 0) [104, 105]
    have decrypted := decrypts none labelled
    obtain ⟨made, _, _, joined⟩ := accepts ciphertext
    have divides : Rsa.mersenneKey.size ∣ ciphertext.length :=
      sized ▸ Nat.dvd_mul_right _ _
    have present : ciphertext ≠ [] := by
      rw [← List.length_pos_iff, sized, size]
      decide
    refine ⟨ciphertext, decrypted, (made _).1 decrypted, ?_⟩
    rw [(joined present divides).2.2 ciphertext present divides, decrypted]
    rfl
  · have cut : ¬ Rsa.mersenneKey.size ∣ ([0] : Bytes).length := by
      rw [size]
      decide
    have refused := (accepts [0]).2.2.1 (.inr cut)
    rw [size] at refused
    exact refused
  · generalize filled : (List.replicate 352 255 : Bytes) = block
    have wide : block.length = Rsa.mersenneKey.size := by
      rw [← filled, List.length_replicate, size]
    have large : Rsa.mersenneKey.modulus ≤ Bytes.toNat block := by
      rw [← filled]
      decide +kernel
    have present : block ≠ [] := by
      rw [← List.length_pos_iff, wide, size]
      decide
    have alone := chunks_append (Nat.zero_lt_of_lt room) wide []
    rw [List.append_nil, chunks_nil] at alone
    refine ((accepts block).2.2.2 present (dvd_of_eq wide.symm)).2.1
      ⟨block, ?_, large⟩
    rw [alone]
    exact List.mem_singleton_self block

end BlockCipher

end BoundKey
