import BoundKey.Crypto.BlockCipher
import BoundKey.Proofs.Program
import BoundKey.Proofs.Rsa.Encryption

set_option autoImplicit false

/-!
Messages of any length, encrypted and decrypted again. A piece that fits gives
one block of the length of the modulus, which is decrypted to the piece; the
ciphertext is cut where the blocks were joined, since all have this length; and
the pieces joined are the message. So decryption undoes encryption for all
random choices. What is not a row of images of padded blocks is not decrypted.
-/

namespace BoundKey

theorem RsaPadding.pad_of_fits (padding : RsaPadding) (label : Bytes)
    (tape : Tape) {size : Nat} {piece : Bytes}
    (fits : piece.length + padding.overhead ≤ size) :
    ∃ rest, padding.pad label tape size piece = some (0 :: rest) ∧
      rest.length + 1 = size ∧
      padding.unpad label (0 :: rest) = some piece := by
  cases padding with
  | pkcs1 => exact Rsa.Pkcs1.encryptionBlock_of_fits tape fits
  | oaep digest => exact Rsa.Oaep.encryptionBlock_of_fits digest label tape fits

namespace BlockCipher

variable {padding : RsaPadding} {key : Rsa.PrivateKey}

/-! ### One block -/

theorem decryptBlock_encryptPiece (sound : key.IsSound)
    (checked : key.publicKey.check = .ok ()) (label : Bytes)
    (tape : Tape) {piece : Bytes}
    (fits : piece.length + padding.overhead ≤ key.size) :
    ∃ block, encryptPiece padding label key.publicKey tape piece = .ok block ∧
      block.length = key.size ∧
      decryptBlock padding label key block = .ok piece := by
  obtain ⟨rest, padded, sized, found⟩ := padding.pad_of_fits label tape fits
  have wide : ((0 : UInt8) :: rest).length = key.size := sized
  have below : Bytes.toNat (0 :: rest) < key.publicKey.modulus :=
    Rsa.toNat_lt_modulus sized
  have image : key.publicKey.apply (Bytes.toNat (0 :: rest)) < key.modulus := by
    rw [Rsa.PublicKey.apply, Rsa.powMod_eq]
    exact Nat.mod_lt _ sound.modulus_pos
  have value := Bytes.toNat_bigEndian (Rsa.PrivateKey.lt_pow_size image)
  have led := sound.apply_eq_ok_iff.2 ⟨image, below, rfl⟩
  refine ⟨Bytes.bigEndian key.size
    (key.publicKey.apply (Bytes.toNat (0 :: rest))), ?_,
    Bytes.bigEndian_length _ _, ?_⟩
  · rw [encryptPiece, checked, key.publicKey_size, padded]
  · rw [decryptBlock, value, led]
    dsimp only
    rw [← Bytes.eq_bigEndian wide rfl, found]

/-! ### Rows of blocks -/

theorem decryptBlocks_encryptPieces
    (sound : key.IsSound) (checked : key.publicKey.check = .ok ())
    {pieces : List Bytes}
    (fit : ∀ piece ∈ pieces, piece.length + padding.overhead ≤ key.size)
    (positive : 0 < key.size) (label : Bytes) (tape : Tape) :
    ∃ ciphertext, encryptPieces padding label key.publicKey tape pieces =
      .ok ciphertext ∧
      ciphertext.length = key.size * pieces.length ∧
      decryptBlocks padding label key (chunks key.size ciphertext) =
        .ok pieces.flatten := by
  induction pieces generalizing tape with
  | nil =>
      refine ⟨[], rfl, rfl, ?_⟩
      rw [chunks_nil]
      rfl
  | cons piece rest ih =>
      obtain ⟨block, encrypted, sized, decrypted⟩ :=
        decryptBlock_encryptPiece sound checked label tape
        (fit piece List.mem_cons_self)
      obtain ⟨blocks, encryptedRest, sizedRest, decryptedRest⟩ :=
        ih (fun other member => fit other (List.mem_cons_of_mem piece member))
          (tape.drop key.size)
      refine ⟨block ++ blocks, ?_, ?_, ?_⟩
      · rw [encryptPieces, encrypted, key.publicKey_size, encryptedRest]
        rfl
      · rw [List.length_append, sized, sizedRest, List.length_cons,
          Nat.mul_succ, Nat.add_comm]
      · rw [chunks_append positive sized, decryptBlocks, decrypted, decryptedRest]
        rfl

/-! ### Pieces of a message -/

theorem flatten_pieces {size : Nat} (positive : 0 < size) (message : Bytes) :
    (pieces size message).flatten = message := by
  rw [pieces]
  cases message with
  | nil => rfl
  | cons byte rest => exact flatten_chunks positive _

theorem length_pieces {size : Nat} (positive : 0 < size) (message : Bytes) :
    (pieces size message).length =
      max 1 ((message.length + size - 1) / size) := by
  rw [pieces]
  cases message with
  | nil =>
      have none : (([] : Bytes).length + size - 1) / size = 0 :=
        Nat.div_eq_of_lt (by rw [List.length_nil]; omega)
      rw [none]
      rfl
  | cons byte rest =>
      have some : 1 ≤ ((byte :: rest).length + size - 1) / size := by
        rw [Nat.le_div_iff_mul_le positive, List.length_cons]
        omega
      rw [Nat.max_eq_right some]
      exact length_chunks positive _

theorem exists_pieces {size : Nat} (positive : 0 < size) (message : Bytes) :
    ∃ piece rest, pieces size message = piece :: rest := by
  apply List.exists_cons_of_length_pos
  rw [length_pieces positive]
  exact Nat.lt_of_lt_of_le Nat.one_pos (Nat.le_max_left 1 _)

theorem length_le_of_mem_pieces {size : Nat} {message piece : Bytes}
    (member : piece ∈ pieces size message) : piece.length ≤ size := by
  rw [pieces] at member
  cases message with
  | nil =>
      rw [List.mem_singleton.1 member]
      exact Nat.zero_le size
  | cons byte rest => exact length_le_of_mem_chunks member

theorem fits_of_mem_pieces {size : Nat} (room : padding.overhead < size)
    {message piece : Bytes}
    (member : piece ∈ pieces (size - padding.overhead) message) :
    piece.length + padding.overhead ≤ size := by
  have short := length_le_of_mem_pieces member
  omega

/-! ### Messages -/

theorem pieceSize_of_room {size : Nat} (room : padding.overhead < size) :
    pieceSize padding size = .ok (size - padding.overhead) :=
  if_neg (Nat.not_le.2 room)

theorem decrypt_of_room (room : padding.overhead < key.size)
    {given : Option CipherParameters} {label : Bytes}
    (labelled : labelBytes padding given = .ok label) (ciphertext : Bytes) :
    decrypt padding ciphertext key given =
      if ciphertext = [] ∨ ¬ key.size ∣ ciphertext.length then
        .error (.blockSize
          s!"ciphertext of {ciphertext.length} bytes is not a multiple of {key.size}")
      else decryptBlocks padding label key (chunks key.size ciphertext) := by
  rw [decrypt, pieceSize_of_room room, labelled]
  simp only [← List.isEmpty_iff, Nat.dvd_iff_mod_eq_zero]
  rfl

/-- With a key that has room for the padding, every message is encrypted, at one
modulus length for each of its pieces, and decrypted again under every spelling
of the label. -/
theorem decrypt_encrypt (sound : key.IsSound)
    (checked : key.publicKey.check = .ok ())
    (room : padding.overhead < key.size) {given : Option CipherParameters}
    {label : Bytes} (labelled : labelBytes padding given = .ok label)
    (tape : Tape) (message : Bytes) :
    ∃ ciphertext, encrypt padding tape message key.publicKey given =
      .ok ciphertext ∧
      ciphertext.length =
        key.size * max 1 ((message.length + (key.size - padding.overhead) - 1) /
          (key.size - padding.overhead)) ∧
      ∀ other, labelBytes padding other = .ok label →
        decrypt padding ciphertext key other = .ok message := by
  have positive : 0 < key.size := Nat.zero_lt_of_lt room
  have space : 0 < key.size - padding.overhead := Nat.sub_pos_of_lt room
  have fit : ∀ piece ∈ pieces (key.size - padding.overhead) message,
      piece.length + padding.overhead ≤ key.size :=
    fun piece => fits_of_mem_pieces room
  obtain ⟨ciphertext, encrypted, sized, decrypted⟩ :=
    decryptBlocks_encryptPieces sound checked fit
    positive label tape
  rw [length_pieces space] at sized
  refine ⟨ciphertext, ?_, sized, ?_⟩
  · rw [encrypt, key.publicKey_size, pieceSize_of_room room, labelled]
    exact encrypted
  · intro other sameLabel
    have present : ciphertext ≠ [] := by
      rw [← List.length_pos_iff, sized]
      exact Nat.mul_pos positive
        (Nat.lt_of_lt_of_le Nat.one_pos (Nat.le_max_left 1 _))
    have whole : ¬ (ciphertext = [] ∨ ¬ key.size ∣ ciphertext.length) := by
      rintro (empty | part)
      · exact present empty
      · exact part (sized ▸ Nat.dvd_mul_right key.size _)
    rw [decrypt_of_room room sameLabel, if_neg whole, decrypted,
      flatten_pieces space]

theorem of_encrypt {publicKey : Rsa.PublicKey}
    {given : Option CipherParameters} {tape : Tape}
    {message ciphertext : Bytes}
    (encrypted : encrypt padding tape message publicKey given = .ok ciphertext) :
    padding.overhead < publicKey.size ∧ publicKey.check = .ok () ∧
      ∃ label, labelBytes padding given = .ok label := by
  rw [encrypt, bind_eq_ok_iff] at encrypted
  obtain ⟨size, measured, rest⟩ := encrypted
  obtain ⟨label, labelled, rest⟩ := bind_eq_ok_iff.1 rest
  have room : padding.overhead < publicKey.size := by
    rw [pieceSize] at measured
    split at measured
    · cases measured
    · next enough => exact Nat.not_le.1 enough
  refine ⟨room, ?_, label, labelled⟩
  have space : 0 < size := by
    rw [pieceSize_of_room room] at measured
    cases measured
    exact Nat.sub_pos_of_lt room
  obtain ⟨piece, others, cut⟩ := exists_pieces space message
  rw [cut, encryptPieces, bind_eq_ok_iff] at rest
  obtain ⟨block, first, _⟩ := rest
  rw [mapError_eq_ok_iff, encryptPiece] at first
  split at first
  · cases first
  · next passed => exact passed

/-! ### Ciphertexts that are not decrypted -/

/-- A block is opened with a key if it is the image of a padded block under the
public operation, and the padding carries a message. -/
def Opens (padding : RsaPadding) (label : Bytes) (key : Rsa.PublicKey)
    (block : Bytes) : Prop :=
  ∃ padded piece, padded.length = key.size ∧ Bytes.toNat padded < key.modulus ∧
    key.apply (Bytes.toNat padded) = Bytes.toNat block ∧
    padding.unpad label padded = some piece

theorem decryptBlock_opens (padding : RsaPadding) (sound : key.IsSound)
    (label block : Bytes) :
    (Opens padding label key.publicKey block →
      ∃ piece, decryptBlock padding label key block = .ok piece) ∧
    (¬ Opens padding label key.publicKey block →
      decryptBlock padding label key block = .error .notDecryptable) := by
  constructor
  · rintro ⟨padded, piece, sized, below, image, carried⟩
    have small : Bytes.toNat block < key.modulus := by
      rw [← image, Rsa.PublicKey.apply, Rsa.powMod_eq]
      exact Nat.mod_lt _ sound.modulus_pos
    have led := sound.apply_eq_ok_iff.2 ⟨small, below, image⟩
    have wide : padded.length = key.size := sized
    refine ⟨piece, ?_⟩
    rw [decryptBlock, led]
    dsimp only
    rw [← Bytes.eq_bigEndian wide rfl, carried]
  · intro shut
    rw [decryptBlock]
    by_cases small : Bytes.toNat block < key.modulus
    · obtain ⟨value, applied⟩ : ∃ value, key.apply (Bytes.toNat block) =
          .ok value := ⟨_, sound.apply_ok small⟩
      obtain ⟨_, below, image⟩ := sound.apply_eq_ok_iff.1 applied
      have read := Bytes.toNat_bigEndian (Rsa.PrivateKey.lt_pow_size below)
      rw [applied]
      dsimp only
      cases carried : padding.unpad label (Bytes.bigEndian key.size value) with
      | none => rfl
      | some piece =>
          refine absurd ⟨Bytes.bigEndian key.size value, piece,
            Bytes.bigEndian_length _ _, ?_, ?_, carried⟩ shut
          · rw [read]
            exact below
          · rw [read]
            exact image
    · have refused : key.apply (Bytes.toNat block) = .error .notDecryptable :=
        if_pos (Nat.not_lt.1 small)
      rw [refused]

/-- A row of blocks is decrypted if all of them are opened, and else the padding
is at fault. -/
theorem decryptBlocks_opens (padding : RsaPadding) (sound : key.IsSound)
    (label : Bytes) (blocks : List Bytes) :
    ((∀ block ∈ blocks, Opens padding label key.publicKey block) →
      ∃ message, decryptBlocks padding label key blocks = .ok message) ∧
    ((∃ block ∈ blocks, ¬ Opens padding label key.publicKey block) →
      decryptBlocks padding label key blocks = .error .badPadding) := by
  induction blocks with
  | nil => exact ⟨fun _ => ⟨[], rfl⟩, fun shut =>
      absurd shut.choose_spec.1 List.not_mem_nil⟩
  | cons block rest ih =>
      obtain ⟨ihOpens, ihShut⟩ := ih
      obtain ⟨opened, refused⟩ := decryptBlock_opens padding sound label block
      constructor
      · intro all
        obtain ⟨piece, decrypted⟩ := opened (all block List.mem_cons_self)
        obtain ⟨pieces, decryptedRest⟩ := ihOpens fun other member =>
          all other (List.mem_cons_of_mem block member)
        refine ⟨piece ++ pieces, ?_⟩
        rw [decryptBlocks, decrypted, decryptedRest]
        rfl
      · rintro ⟨other, member, shut⟩
        rw [decryptBlocks]
        by_cases opens : Opens padding label key.publicKey block
        · obtain ⟨piece, decrypted⟩ := opened opens
          have later : other ∈ rest :=
            (List.mem_cons.1 member).resolve_left fun same => shut (same ▸ opens)
          rw [decrypted, ihShut ⟨other, later, shut⟩]
          rfl
        · rw [refused opens]
          rfl

end BlockCipher

end BoundKey
