import BoundKey.Proofs.Digest
import BoundKey.Proofs.Rsa.Key
import BoundKey.Proofs.Text.Blank
import BoundKey.Rsa.Oaep
import BoundKey.Rsa.Pkcs1

set_option autoImplicit false

/-!
Padded blocks of encryption. A message that fits has a block for any random
choices, as long as the modulus and with a zero byte in front, so that it writes
a number below the modulus; and the message is found in the block again. With
OAEP the two masks come off in the reverse of the order in which they were put
on.
-/

namespace BoundKey

/-! ### Random bytes -/

namespace Tape

@[simp] theorem take_length (tape : Tape) (count : Nat) :
    (tape.take count).length = count := by
  rw [take, List.length_map, List.length_range]

@[simp] theorem takeNonzero_length (tape : Tape) (count : Nat) :
    (tape.takeNonzero count).length = count := by
  rw [takeNonzero, List.length_map, take_length]

theorem takeNonzero_ne_zero (tape : Tape) (count : Nat) :
    ∀ byte ∈ tape.takeNonzero count, byte ≠ 0 := by
  intro byte member
  obtain ⟨drawn, _, same⟩ := List.mem_map.1 member
  rw [← same]
  by_cases zero : drawn = 0
  · rw [if_pos zero]
    decide
  · rw [if_neg zero]
    exact zero

end Tape

namespace Rsa

/-- A block with a zero byte in front writes a number below every modulus of its
length. -/
theorem toNat_lt_modulus {key : PublicKey} {rest : Bytes}
    (sized : rest.length + 1 = key.size) :
    Bytes.toNat (0 :: rest) < key.modulus := by
  rw [Bytes.toNat_zero_cons]
  refine Nat.lt_of_lt_of_le (Bytes.toNat_lt rest) (pow_le_of_lt_byteLength ?_)
  change _ < key.size
  omega

/-! ### PKCS #1 version 1.5 -/

namespace Pkcs1

theorem encryptionBlock_of_fits (tape : Tape) {size : Nat} {message : Bytes}
    (fits : message.length + overhead ≤ size) :
    ∃ rest, encryptionBlock tape size message = some (0 :: rest) ∧
      rest.length + 1 = size ∧
      message? (0 :: rest) = some message := by
  have filling := tape.takeNonzero_ne_zero (size - message.length - 3)
  have enough : message.length + 11 ≤ size := fits
  refine ⟨0x02 :: (tape.takeNonzero (size - message.length - 3)
    ++ 0x00 :: message), if_neg (Nat.not_lt.2 fits), ?_, ?_⟩
  · simp only [List.length_cons, List.length_append, Tape.takeNonzero_length]
    omega
  · have before : ∀ byte ∈ tape.takeNonzero (size - message.length - 3),
        decide (byte ≠ 0) = true :=
      fun byte member => decide_eq_true (filling byte member)
    have taken :
        (tape.takeNonzero (size - message.length - 3)
          ++ 0x00 :: message).takeWhile (· ≠ 0) =
        tape.takeNonzero (size - message.length - 3) :=
      Text.takeWhile_stop before rfl message
    have dropped :
        (tape.takeNonzero (size - message.length - 3)
          ++ 0x00 :: message).dropWhile (· ≠ 0) =
        0x00 :: message := Text.dropWhile_stop before rfl message
    have long : 8 ≤ (tape.takeNonzero (size - message.length - 3)).length := by
      rw [Tape.takeNonzero_length]
      omega
    rw [message?, dropped]
    dsimp only
    rw [taken, if_pos long]

end Pkcs1

/-! ### OAEP -/

theorem mask_length (digest : Digest) (seed : Bytes) (size : Nat) :
    (mask digest seed size).length = size := by
  have positive : 0 < digest.size := by cases digest <;> decide
  have whole (count : Nat) : ((List.range count).flatMap fun counter =>
      digest.hash (seed ++ Bytes.bigEndian 4 counter)).length =
      count * digest.size := by
    rw [List.length_flatMap]
    simp only [Digest.hash_length, List.map_const', List.sum_replicate,
      List.length_range, smul_eq_mul]
  have enough : size ≤ (size + digest.size - 1) / digest.size * digest.size := by
    have rounded := Nat.div_add_mod (size + digest.size - 1) digest.size
    have remainder := Nat.mod_lt (size + digest.size - 1) positive
    rw [Nat.mul_comm]
    omega
  rw [mask, List.length_take, whole, Nat.min_eq_left enough]

namespace Oaep

theorem dataBlock_length (digest : Digest) (label : Bytes) {size : Nat}
    {message : Bytes} (fits : message.length + overhead digest ≤ size) :
    (dataBlock digest label size message).length = size - digest.size - 1 := by
  have room : message.length + (2 * digest.size + 2) ≤ size := fits
  simp only [dataBlock, overhead, List.length_append, List.length_cons,
    Digest.hash_length, Bytes.zeros, List.length_replicate]
  omega

theorem dataMessage?_dataBlock (digest : Digest) (label : Bytes) (size : Nat)
    (message : Bytes) :
    dataMessage? digest label (dataBlock digest label size message) =
      some message := by
  have labelled : (dataBlock digest label size message).take digest.size =
      digest.hash label := by
    rw [dataBlock, List.append_assoc, List.take_left' (digest.hash_length label)]
  have behind : (dataBlock digest label size message).drop digest.size =
      Bytes.zeros (size - message.length - overhead digest)
        ++ 0x01 :: message := by
    rw [dataBlock, List.append_assoc, List.drop_left' (digest.hash_length label)]
  have zeros : ∀ byte ∈ Bytes.zeros (size - message.length - overhead digest),
      decide (byte = 0) = true :=
    fun byte member => decide_eq_true (List.eq_of_mem_replicate member)
  have stripped :
      (Bytes.zeros (size - message.length - overhead digest)
        ++ 0x01 :: message).dropWhile (· = 0) =
      0x01 :: message := Text.dropWhile_stop zeros rfl message
  rw [dataMessage?, if_pos labelled, behind, stripped]
  rfl

theorem encryptionBlock_of_fits (digest : Digest) (label : Bytes) (tape : Tape)
    {size : Nat} {message : Bytes}
    (fits : message.length + overhead digest ≤ size) :
    ∃ rest, encryptionBlock digest label tape size message = some (0 :: rest) ∧
      rest.length + 1 = size ∧
      message? digest label (0 :: rest) = some message := by
  let seed := tape.take digest.size
  let covered := dataBlock digest label size message
  let masked := Bytes.xor covered (mask digest seed covered.length)
  let maskedSeed := Bytes.xor seed (mask digest masked digest.size)
  have seedSized : seed.length = digest.size := tape.take_length digest.size
  have maskedSized : masked.length = covered.length := by
    rw [Bytes.xor_length, mask_length, Nat.min_self]
  have maskedSeedSized : maskedSeed.length = digest.size := by
    rw [Bytes.xor_length, mask_length, seedSized, Nat.min_self]
  have uncoveredSeed : Bytes.xor maskedSeed (mask digest masked digest.size) =
      seed :=
    Bytes.xor_xor (Nat.le_of_eq
      (seedSized.trans (mask_length digest masked digest.size).symm))
  have uncovered : Bytes.xor masked (mask digest seed masked.length) =
      covered := by
    rw [maskedSized]
    exact Bytes.xor_xor
      (Nat.le_of_eq (mask_length digest seed covered.length).symm)
  have room : message.length + (2 * digest.size + 2) ≤ size := fits
  refine ⟨maskedSeed ++ masked, if_neg (Nat.not_lt.2 fits), ?_, ?_⟩
  · rw [List.length_append, maskedSeedSized, maskedSized,
      dataBlock_length digest label fits]
    omega
  · rw [message?, List.take_left' maskedSeedSized,
      List.drop_left' maskedSeedSized, uncoveredSeed, uncovered]
    exact dataMessage?_dataBlock digest label size message

end Oaep

end Rsa

end BoundKey
