import BoundKey.Rsa.Pkcs1
import BoundKey.Proofs.Digest
import BoundKey.Proofs.Rsa.Key

set_option autoImplicit false

/-!
Signatures with the padding of PKCS #1 version 1.5. A text has one block, the
block one number below the modulus that leads to it, and the number one byte
string of the length of the modulus; so exactly one byte string is accepted as
the signature of a text, the one that signing yields, and none where signing
fails.
-/

namespace BoundKey.Rsa.Pkcs1

/-! ### Blocks -/

theorem signatureBlock_length {size : Nat} {text block : Bytes}
    (found : signatureBlock size text = some block) :
    block.length = size := by
  rw [signatureBlock] at found
  split at found
  · cases found
  · next fits =>
      cases found
      have enough : text.length + 11 ≤ size := Nat.not_lt.1 fits
      simp only [List.length_append, List.length_cons, List.length_replicate]
      omega

/-- A block begins with a zero byte, so it writes a number below any modulus of
its size. -/
theorem toNat_signatureBlock_lt {key : PublicKey} {text block : Bytes}
    (found : signatureBlock key.size text = some block) :
    Bytes.toNat block < key.modulus := by
  have length := signatureBlock_length found
  rw [signatureBlock] at found
  split at found
  · cases found
  · next fits =>
      cases found
      rw [List.cons_append, List.length_cons] at length
      rw [List.cons_append, Bytes.toNat_zero_cons]
      refine Nat.lt_of_lt_of_le (Bytes.toNat_lt _) (pow_le_of_lt_byteLength ?_)
      change _ < key.size
      omega

theorem digestInfo_length (digest : Digest) (message : Bytes) :
    (digestInfo digest message).length = 19 + digest.size := by
  rw [digestInfo, List.length_append, Digest.hash_length]
  cases digest with
  | _ => rfl

/-! ### Signing and verifying -/

theorem sign_eq_ok_iff {key : PrivateKey} {text signature : Bytes} :
    sign key text = .ok signature ↔
      ∃ block result, signatureBlock key.size text = some block ∧
      key.apply (Bytes.toNat block) = .ok result ∧
      signature = Bytes.bigEndian key.size result := by
  rw [sign]
  cases signatureBlock key.size text with
  | none =>
      constructor
      · intro failed
        cases failed
      · rintro ⟨block, result, found, _⟩
        cases found
  | some block =>
      dsimp only
      constructor
      · intro signed
        cases applied : key.apply (Bytes.toNat block) with
        | error fault =>
            rw [applied] at signed
            cases signed
        | ok result =>
            rw [applied] at signed
            cases signed
            exact ⟨block, result, rfl, applied, rfl⟩
      · rintro ⟨other, result, found, applied, same⟩
        cases found
        rw [applied, same]
        rfl

theorem verify_iff {key : PublicKey} {text signature : Bytes} :
    verify key text signature = true ↔ signature.length = key.size ∧
      Bytes.toNat signature < key.modulus ∧
      signatureBlock key.size text =
        some (Bytes.bigEndian key.size (key.apply (Bytes.toNat signature))) := by
  rw [verify, Bool.and_eq_true, Bool.and_eq_true, decide_eq_true_iff,
    decide_eq_true_iff, decide_eq_true_iff, and_assoc]

theorem sign_length {key : PrivateKey} {text signature : Bytes}
    (signed : sign key text = .ok signature) : signature.length = key.size := by
  obtain ⟨block, result, _, _, same⟩ := sign_eq_ok_iff.1 signed
  rw [same, Bytes.bigEndian_length]

variable {key : PrivateKey}

theorem verify_of_sign {text signature : Bytes}
    (signed : sign key text = .ok signature) :
    verify key.publicKey text signature = true := by
  obtain ⟨block, result, found, applied, same⟩ := sign_eq_ok_iff.1 signed
  obtain ⟨-, below, led⟩ := PrivateKey.led_of_apply applied
  have value : Bytes.toNat signature = result := by
    rw [same, Bytes.toNat_bigEndian (PrivateKey.lt_pow_size below)]
  rw [verify_iff, value, led]
  refine ⟨?_, below, ?_⟩
  · rw [same, Bytes.bigEndian_length]
    rfl
  · rw [key.publicKey_size, found]
    exact congrArg some (Bytes.eq_bigEndian (signatureBlock_length found) rfl)

theorem sign_ok (sound : key.IsSound) {text : Bytes}
    (fits : text.length + overhead ≤ key.size) :
    ∃ signature, sign key text = .ok signature := by
  have found : signatureBlock key.size text =
      some (0x00 :: 0x01 :: List.replicate (key.size - text.length - 3) 0xff
        ++ 0x00 :: text) :=
    if_neg (Nat.not_lt.2 fits)
  have below := toNat_signatureBlock_lt found
  exact ⟨_, sign_eq_ok_iff.2 ⟨_, _, found, sound.apply_ok below, rfl⟩⟩

theorem sign_of_long {text : Bytes} (long : key.size < text.length + overhead) :
    sign key text = .error .messageTooLong := by
  have missing : signatureBlock key.size text = none := if_pos long
  rw [sign, missing]

theorem sign_ne_nil {text signature : Bytes}
    (signed : sign key text = .ok signature) : signature ≠ [] := by
  intro empty
  have sized := sign_length signed
  rw [empty, List.length_nil] at sized
  have long : key.size < text.length + overhead := by
    rw [← sized]
    exact Nat.add_pos_right _ (by decide)
  rw [sign_of_long long] at signed
  cases signed

/-- A byte string is accepted as the signature of a text exactly if signing the
text yields it. -/
theorem verify_iff_sign (sound : key.IsSound) (text signature : Bytes) :
    verify key.publicKey text signature = true ↔
      sign key text = .ok signature := by
  constructor
  · intro accepted
    obtain ⟨sized, below, found⟩ := verify_iff.1 accepted
    have image : key.publicKey.apply (Bytes.toNat signature) < key.modulus := by
      rw [PublicKey.apply, powMod_eq]
      exact Nat.mod_lt _ sound.modulus_pos
    have value :
        Bytes.toNat (Bytes.bigEndian key.size
          (key.publicKey.apply (Bytes.toNat signature))) =
        key.publicKey.apply (Bytes.toNat signature) :=
      Bytes.toNat_bigEndian (PrivateKey.lt_pow_size image)
    refine sign_eq_ok_iff.2 ⟨_, Bytes.toNat signature, found, ?_,
      Bytes.eq_bigEndian sized rfl⟩
    refine sound.apply_eq_ok_iff.2 ⟨?_, below, ?_⟩
    · rw [key.publicKey_size, value]
      exact image
    · rw [key.publicKey_size, value]
  · exact verify_of_sign

end BoundKey.Rsa.Pkcs1
