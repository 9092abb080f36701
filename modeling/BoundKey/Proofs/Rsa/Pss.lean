import BoundKey.Proofs.Rsa.Encryption
import BoundKey.Rsa.Pss

set_option autoImplicit false

/-!
Signatures of the probabilistic scheme. The encoded text is one bit shorter than
the modulus, so it writes a number below it for every salt, and a sound key with
room for two digests signs every message. Clearing bits goes through a mask, so
a text whose unused bits are zero is unmasked although they were cleared on the
way; hence what is accepted are the encoded texts and no others, for every
number of bits.
-/

namespace BoundKey.Rsa.Pss

variable {digest : Digest} {bits : Nat}

/-! ### The bits that are cleared -/

theorem topBits_pos (bits : Nat) : 0 < topBits bits := by
  unfold topBits encodedSize
  omega

theorem toNat_cleared (first : UInt8) (width : Nat) :
    (UInt8.ofNat (first.toNat % Nat.pow 2 width)).toNat =
      first.toNat % 2 ^ width := by
  have small : first.toNat % 2 ^ width < 256 :=
    Nat.lt_of_le_of_lt (Nat.mod_le _ _) first.toNat_lt
  exact Bytes.toNat_byte small

@[simp] theorem clearTop_length (bits : Nat) (bytes : Bytes) :
    (clearTop bits bytes).length = bytes.length := by
  cases bytes with
  | nil => rfl
  | cons first rest => rfl

@[simp] theorem clearTop_clearTop (bits : Nat) (bytes : Bytes) :
    clearTop bits (clearTop bits bytes) = clearTop bits bytes := by
  cases bytes with
  | nil => rfl
  | cons first rest =>
      simp only [clearTop, toNat_cleared, List.cons.injEq, and_true]
      exact congrArg UInt8.ofNat (Nat.mod_mod _ _)

theorem clearTop_xor (bits : Nat) (left right : Bytes) :
    clearTop bits (Bytes.xor left right) =
      Bytes.xor (clearTop bits left) (clearTop bits right) := by
  cases left with
  | nil => rfl
  | cons first rest =>
      cases right with
      | nil => rfl
      | cons other more =>
          refine congrArg (· :: Bytes.xor rest more) (UInt8.toNat_inj.1 ?_)
          rw [toNat_cleared, UInt8.toNat_xor, UInt8.toNat_xor, toNat_cleared,
            toNat_cleared, Nat.xor_mod_two_pow]

/-- A mask comes off a text without the unused bits, although they are cleared
in between. -/
theorem clearTop_unmask {bytes mask : Bytes} (clear : clearTop bits bytes = bytes)
    (covered : bytes.length ≤ mask.length) :
    clearTop bits (Bytes.xor (clearTop bits (Bytes.xor bytes mask)) mask) =
      bytes := by
  rw [clearTop_xor, clearTop_clearTop, ← clearTop_xor,
    Bytes.xor_xor covered, clear]

/-! ### The block under the mask -/

theorem dataBlock_length (room : 2 * digest.size + 2 ≤ encodedSize bits)
    {salt : Bytes} (salted : salt.length = digest.size) :
    (dataBlock digest bits salt).length = encodedSize bits - digest.size - 1 := by
  simp only [dataBlock, Bytes.zeros, List.length_append, List.length_replicate,
    List.length_cons, salted]
  omega

theorem clearTop_dataBlock (digest : Digest) (bits : Nat) (salt : Bytes) :
    clearTop bits (dataBlock digest bits salt) = dataBlock digest bits salt := by
  have one : 1 % Nat.pow 2 (topBits bits) = 1 :=
    Nat.mod_eq_of_lt (Nat.one_lt_two_pow (Nat.ne_of_gt (topBits_pos bits)))
  unfold dataBlock
  cases encodedSize bits - 2 * digest.size - 2 with
  | zero =>
      change UInt8.ofNat (1 % _) :: salt = _
      rw [one]
      rfl
  | succ count =>
      change UInt8.ofNat (0 % _) :: _ = _
      rw [Nat.zero_mod]
      rfl

theorem drop_dataBlock {salt : Bytes} (salted : salt.length = digest.size) :
    (dataBlock digest bits salt).drop
      ((dataBlock digest bits salt).length - digest.size) = salt := by
  have whole : dataBlock digest bits salt =
      Bytes.zeros (encodedSize bits - 2 * digest.size - 2) ++ [0x01] ++ salt := by
    simp [dataBlock]
  rw [whole]
  apply List.drop_left'
  simp only [List.length_append, salted, Nat.add_sub_cancel]

/-! ### Encoded texts -/

theorem encode_eq_some_iff {hashed salt encoded : Bytes} :
    encode digest bits hashed salt = some encoded ↔
      2 * digest.size + 2 ≤ encodedSize bits ∧
      encoded = clearTop bits (Bytes.xor (dataBlock digest bits salt)
        (mask digest (bound digest hashed salt)
          (dataBlock digest bits salt).length)) ++
          bound digest hashed salt ++ [0xbc] := by
  unfold encode
  by_cases room : 2 * digest.size + 2 ≤ encodedSize bits
  · simp [room, eq_comm]
  · simp [room]

theorem encode_length {hashed salt encoded : Bytes}
    (salted : salt.length = digest.size)
    (found : encode digest bits hashed salt = some encoded) :
    encoded.length = encodedSize bits := by
  obtain ⟨room, same⟩ := encode_eq_some_iff.1 found
  rw [same]
  simp only [List.length_append, clearTop_length, Bytes.xor_length, mask_length,
    Nat.min_self, bound, Digest.hash_length, List.length_singleton,
    dataBlock_length room salted]
  omega

theorem encode_of_room {salt : Bytes}
    (room : 2 * digest.size + 2 ≤ encodedSize bits)
    (salted : salt.length = digest.size) (hashed : Bytes) :
    ∃ encoded, encode digest bits hashed salt = some encoded ∧
      Bytes.toNat encoded < 2 ^ bits := by
  let binding := bound digest hashed salt
  let covered := dataBlock digest bits salt
  let masked := Bytes.xor covered (mask digest binding covered.length)
  have bindingSized : binding.length = digest.size := digest.hash_length _
  have maskedSized : masked.length = encodedSize bits - digest.size - 1 := by
    rw [Bytes.xor_length, mask_length, Nat.min_self]
    exact dataBlock_length room salted
  refine ⟨clearTop bits masked ++ binding ++ [0xbc],
    encode_eq_some_iff.2 ⟨room, rfl⟩, ?_⟩
  obtain ⟨first, rest, whole⟩ : ∃ first rest, masked = first :: rest := by
    apply List.exists_cons_of_length_pos
    omega
  have top : (UInt8.ofNat (first.toNat % Nat.pow 2 (topBits bits))).toNat <
      2 ^ topBits bits := by
    rw [toNat_cleared]
    exact Nat.mod_lt _ (Nat.two_pow_pos _)
  -- The first byte has the bits that the number of bits leaves over, and the
  -- others are full.
  have filled : topBits bits + 8 * (rest ++ binding ++ [0xbc]).length = bits := by
    have length := congrArg List.length whole
    rw [maskedSized, List.length_cons] at length
    rw [List.length_append, List.length_append, bindingSized,
      List.length_singleton, topBits]
    unfold encodedSize at *
    omega
  rw [whole, clearTop, List.cons_append, List.cons_append]
  have small := Bytes.toNat_cons_lt top (rest ++ binding ++ [0xbc])
  have power : 2 ^ topBits bits * 256 ^ (rest ++ binding ++ [0xbc]).length =
      2 ^ bits := by
    have byte : 256 = 2 ^ 8 := rfl
    rw [byte, ← Nat.pow_mul, ← Nat.pow_add, filled]
  rw [power] at small
  exact small

/-! ### Accepted texts -/

/-- The three parts of a text are checked against what they are taken from. -/
theorem accepts_append_iff {hashed masked binding : Bytes} {last : UInt8}
    (maskedSized : masked.length = encodedSize bits - digest.size - 1)
    (bindingSized : binding.length = digest.size) :
    accepts digest bits hashed (masked ++ binding ++ [last]) = true ↔
      ∃ covered, clearTop bits
        (Bytes.xor masked (mask digest binding masked.length)) = covered ∧
        2 * digest.size + 2 ≤ encodedSize bits ∧ last = 0xbc ∧
          clearTop bits masked = masked ∧
        covered = dataBlock digest bits
          (covered.drop (covered.length - digest.size)) ∧
        binding = bound digest hashed
          (covered.drop (covered.length - digest.size)) := by
  have front : (masked ++ binding ++ [last]).take
      (encodedSize bits - digest.size - 1) = masked := by
    rw [List.append_assoc, List.take_left' maskedSized]
  have middle :
      ((masked ++ binding ++ [last]).drop
        (encodedSize bits - digest.size - 1)).take digest.size = binding := by
    rw [List.append_assoc, List.drop_left' maskedSized,
      List.take_left' bindingSized]
  have ends : (masked ++ binding ++ [last]).getLast? = some last :=
    List.getLast?_concat
  unfold accepts
  simp only [front, middle, ends, Bool.and_eq_true, decide_eq_true_eq,
    Option.some.injEq, and_assoc, exists_eq_left']

theorem accepts_encode {hashed salt encoded : Bytes}
    (salted : salt.length = digest.size)
    (found : encode digest bits hashed salt = some encoded) :
    accepts digest bits hashed encoded = true := by
  obtain ⟨room, same⟩ := encode_eq_some_iff.1 found
  have covers :=
    (mask_length digest (bound digest hashed salt)
      (dataBlock digest bits salt).length).symm
  have bindingSized : (bound digest hashed salt).length = digest.size :=
    digest.hash_length _
  have maskedSized : (clearTop bits (Bytes.xor (dataBlock digest bits salt)
      (mask digest (bound digest hashed salt)
        (dataBlock digest bits salt).length))).length =
        (dataBlock digest bits salt).length := by
    rw [clearTop_length, Bytes.xor_length, mask_length, Nat.min_self]
  rw [same, accepts_append_iff
    (maskedSized.trans (dataBlock_length room salted)) bindingSized]
  refine ⟨dataBlock digest bits salt, ?_, room, rfl,
    clearTop_clearTop bits _, ?_, ?_⟩
  · rw [maskedSized]
    exact clearTop_unmask (clearTop_dataBlock digest bits salt)
      (Nat.le_of_eq covers)
  · rw [drop_dataBlock salted]
  · rw [drop_dataBlock salted]

private theorem three_parts (front middle : Nat) {encoded : Bytes}
    (sized : encoded.length = front + middle + 1) :
    ∃ first second last, encoded = first ++ second ++ [last] ∧
      first.length = front ∧ second.length = middle := by
  obtain ⟨last, single⟩ : ∃ last, encoded.drop (front + middle) = [last] := by
    apply List.length_eq_one_iff.1
    rw [List.length_drop, sized]
    omega
  refine ⟨encoded.take front, (encoded.drop front).take middle, last, ?_, ?_, ?_⟩
  · rw [← List.take_add, ← single, List.take_append_drop]
  · rw [List.length_take, sized]
    omega
  · rw [List.length_take, List.length_drop, sized]
    omega

theorem encode_of_accepts {hashed encoded : Bytes}
    (sized : encoded.length = encodedSize bits)
    (accepted : accepts digest bits hashed encoded = true) :
    ∃ salt, salt.length = digest.size ∧ encode digest bits hashed salt =
      some encoded := by
  have room : 2 * digest.size + 2 ≤ encodedSize bits := by
    unfold accepts at accepted
    simp only [Bool.and_eq_true, decide_eq_true_eq] at accepted
    exact accepted.1.1.1.1
  obtain ⟨masked, binding, last, same, maskedSized, bindingSized⟩ :=
    three_parts (encodedSize bits - digest.size - 1) digest.size
      (show encoded.length = _ by omega)
  rw [same, accepts_append_iff maskedSized bindingSized] at accepted
  obtain ⟨covered, unmasked, _, isLast, clear, block, binds⟩ := accepted
  have covers := (mask_length digest binding masked.length).symm
  have coveredSized : covered.length = masked.length := by
    rw [← unmasked, clearTop_length, Bytes.xor_length, mask_length, Nat.min_self]
  refine ⟨covered.drop (covered.length - digest.size), ?_, ?_⟩
  · rw [List.length_drop]
    omega
  · rw [encode_eq_some_iff, ← block, ← binds, coveredSized, ← unmasked,
      clearTop_unmask clear (Nat.le_of_eq covers),
      ← isLast]
    exact ⟨room, same⟩

theorem accepts_iff {hashed encoded : Bytes}
    (sized : encoded.length = encodedSize bits) :
    accepts digest bits hashed encoded = true ↔
      ∃ salt, salt.length = digest.size ∧ encode digest bits hashed salt =
        some encoded := by
  constructor
  · exact encode_of_accepts sized
  · intro encodes
    obtain ⟨salt, salted, found⟩ := encodes
    exact accepts_encode salted found

/-! ### Signatures -/

theorem encodedSize_le (number : Nat) :
    encodedSize (bitLength number - 1) ≤ byteLength number := by
  unfold encodedSize byteLength
  omega

/-- A byte string is a signature if the end of what it is led to encodes the
message with some salt. -/
theorem verify_iff {key : PublicKey} {message signature : Bytes} :
    verify digest key message signature = true ↔ signature.length = key.size ∧
      ∃ salt, salt.length = digest.size ∧
      encode digest (bitLength key.modulus - 1) (digest.hash message) salt =
        some ((Bytes.bigEndian key.size
          (Bytes.toNat signature ^ key.exponent % key.modulus)).drop
          (key.size - encodedSize (bitLength key.modulus - 1))) := by
  have fits : encodedSize (bitLength key.modulus - 1) ≤ key.size :=
    encodedSize_le key.modulus
  have sized :
      ((Bytes.bigEndian key.size (key.apply (Bytes.toNat signature))).drop
      (key.size - encodedSize (bitLength key.modulus - 1))).length =
      encodedSize (bitLength key.modulus - 1) := by
    rw [List.length_drop, Bytes.bigEndian_length]
    omega
  rw [verify, Bool.and_eq_true, decide_eq_true_eq, accepts_iff sized,
    PublicKey.apply, powMod_eq]

variable {key : PrivateKey} {tape : Tape} {message signature : Bytes}

theorem sign_eq_ok_iff : sign digest tape key message = .ok signature ↔
    ∃ encoded result,
      encode digest (bitLength key.modulus - 1) (digest.hash message)
        (tape.take digest.size) = some encoded ∧
      key.apply (Bytes.toNat encoded) = .ok result ∧
      Bytes.bigEndian key.size result = signature := by
  rw [sign]
  cases encode digest (bitLength key.modulus - 1) (digest.hash message)
    (tape.take digest.size) with
  | none => simp
  | some encoded => simp [map_eq_ok_iff]

theorem sign_ok (sound : key.IsSound)
    (room : 2 * digest.size + 2 ≤ encodedSize (bitLength key.modulus - 1))
    (tape : Tape) (message : Bytes) :
    ∃ signature, sign digest tape key message = .ok signature := by
  obtain ⟨encoded, found, small⟩ :=
    encode_of_room room (tape.take_length digest.size) (digest.hash message)
  have below : Bytes.toNat encoded < key.modulus :=
    Nat.lt_of_lt_of_le small
      (two_pow_bitLength_le (Nat.ne_of_gt sound.modulus_pos))
  exact ⟨_, sign_eq_ok_iff.2 ⟨encoded, _, found, sound.apply_ok below, rfl⟩⟩

theorem sign_length (signed : sign digest tape key message = .ok signature) :
    signature.length = key.size := by
  obtain ⟨encoded, result, found, applied, same⟩ := sign_eq_ok_iff.1 signed
  rw [← same, Bytes.bigEndian_length]

theorem room_of_sign (signed : sign digest tape key message = .ok signature) :
    2 * digest.size + 2 ≤ encodedSize (bitLength key.modulus - 1) := by
  obtain ⟨encoded, result, found, applied, same⟩ := sign_eq_ok_iff.1 signed
  exact (encode_eq_some_iff.1 found).1

/-- A signature leads back to the encoded text, with zeros in front of it where
it is shorter than the modulus. -/
theorem verify_sign (sound : key.IsSound)
    (signed : sign digest tape key message = .ok signature) :
    verify digest key.publicKey message signature = true := by
  obtain ⟨encoded, result, found, applied, same⟩ := sign_eq_ok_iff.1 signed
  obtain ⟨small, below, led⟩ := sound.apply_eq_ok_iff.1 applied
  have salted := tape.take_length digest.size
  have value : Bytes.toNat signature = result := by
    rw [← same, Bytes.toNat_bigEndian (PrivateKey.lt_pow_size below)]
  rw [PublicKey.apply, powMod_eq] at led
  have sized := encode_length salted found
  have behind : (Bytes.bigEndian key.size (Bytes.toNat encoded)).drop
      (key.size - encodedSize (bitLength key.modulus - 1)) = encoded := by
    rw [← sized]
    exact Bytes.drop_bigEndian_toNat (sized ▸ encodedSize_le key.modulus)
  rw [verify_iff]
  refine ⟨sign_length signed, tape.take digest.size, salted, ?_⟩
  rw [value, led]
  exact found.trans (congrArg some behind.symm)

end BoundKey.Rsa.Pss
