import BoundKey.Proofs.Manager.Signature
import BoundKey.Proofs.Rsa.Pss

set_option autoImplicit false

/-!
Signers of the probabilistic scheme. A byte string is accepted exactly if the
public operation leads it to an encoding of the message with some salt, in a
field as wide as the modulus; where the encoded text is shorter than that, what
stands in front of it is not looked at.
-/

namespace BoundKey.Signer

theorem pss_sign_eq_ok_iff {digest : Digest} {tape : Tape}
    {message signature : Bytes} {key : Rsa.PrivateKey} :
    (pss digest).sign tape message key = .ok signature ↔
      Rsa.Pss.sign digest tape key message = .ok signature :=
  mapError_eq_ok_iff

theorem pss_verify_eq_ok_iff {digest : Digest} {message signature : Bytes}
    {key : Rsa.PublicKey} : (pss digest).verify message signature key = .ok () ↔
      Rsa.Pss.verify digest key message signature = true :=
  Manager.answer_eq_ok_iff

/-- Among all byte strings those are accepted that are as long as the modulus
and are led to an encoding of the message with some salt; any other is an
invalid signature. A message is signed exactly if the modulus has room for two
digests, and then with every salt, and what is signed is accepted. -/
theorem accepts_encoded {key : Rsa.PrivateKey} (sound : key.IsSound)
    (digest : Digest) (message : Bytes) : (∀ signature : Bytes,
      ((pss digest).verify message signature key.publicKey = .ok () ↔
        signature.length = key.size ∧
        2 * digest.size + 2 ≤ Rsa.Pss.encodedSize (bitLength key.modulus - 1) ∧
        ∃ salt : Bytes, salt.length = digest.size ∧
          Rsa.Pss.encode digest (bitLength key.modulus - 1)
            (digest.hash message) salt =
            some ((Bytes.bigEndian key.size
              (Bytes.toNat signature ^ key.publicExponent % key.modulus)).drop
              (key.size - Rsa.Pss.encodedSize (bitLength key.modulus - 1)))) ∧
      ((pss digest).verify message signature key.publicKey ≠ .ok () →
        (pss digest).verify message signature key.publicKey =
          .error .invalidSignature)) ∧
    ∀ tape : Tape,
      ((∃ signature, (pss digest).sign tape message key = .ok signature) ↔
        2 * digest.size + 2 ≤ Rsa.Pss.encodedSize (bitLength key.modulus - 1)) ∧
      ∀ signature, (pss digest).sign tape message key = .ok signature →
        signature.length = key.size ∧
          (pss digest).verify message signature key.publicKey = .ok () := by
  constructor
  · intro signature
    constructor
    · rw [pss_verify_eq_ok_iff, Rsa.Pss.verify_iff]
      constructor
      · intro accepted
        obtain ⟨sized, salt, salted, found⟩ := accepted
        exact ⟨sized, (Rsa.Pss.encode_eq_some_iff.1 found).1, salt, salted, found⟩
      · intro encoded
        obtain ⟨sized, _, salt, salted, found⟩ := encoded
        exact ⟨sized, salt, salted, found⟩
    · intro refused
      change answer _ ≠ .ok () at refused
      change answer _ = .error .invalidSignature
      cases valid : Rsa.Pss.verify digest key.publicKey message signature with
      | true =>
          rw [valid] at refused
          exact absurd rfl refused
      | false => rfl
  · intro tape
    constructor
    · constructor
      · intro signed
        obtain ⟨signature, made⟩ := signed
        exact Rsa.Pss.room_of_sign (pss_sign_eq_ok_iff.1 made)
      · intro room
        obtain ⟨signature, made⟩ := Rsa.Pss.sign_ok sound room tape message
        exact ⟨signature, pss_sign_eq_ok_iff.2 made⟩
    · intro signature signed
      have made := pss_sign_eq_ok_iff.1 signed
      exact ⟨Rsa.Pss.sign_length made,
        pss_verify_eq_ok_iff.2 (Rsa.Pss.verify_sign sound made)⟩

/-- The case of a key of two Mersenne primes: a message is signed, with a salt
of the longest digest. -/
theorem accepts_encoded_mersenne : Rsa.mersenneKey.IsSound ∧ (∃ signature : Bytes,
    (pss .sha512).sign (.ofSeed 0) [104, 105] Rsa.mersenneKey = .ok signature ∧
      signature.length = 352 ∧
    (pss .sha512).verify [104, 105] signature Rsa.mersenneKey.publicKey = .ok () ∧
    ∃ salt : Bytes, salt.length = 64 ∧
      Rsa.Pss.encode .sha512 (bitLength Rsa.mersenneKey.modulus - 1)
        (Digest.sha512.hash [104, 105]) salt =
        some ((Bytes.bigEndian 352
          (Bytes.toNat signature ^ Rsa.mersenneKey.publicExponent %
            Rsa.mersenneKey.modulus)).drop
          (352 - Rsa.Pss.encodedSize (bitLength Rsa.mersenneKey.modulus - 1)))) ∧
    (pss .sha512).verify [104, 105] [] Rsa.mersenneKey.publicKey =
      .error .invalidSignature := by
  have sound := Rsa.mersenneKey_isSound
  have size : Rsa.mersenneKey.size = 352 := by decide +kernel
  have room : 2 * Digest.sha512.size + 2 ≤
      Rsa.Pss.encodedSize (bitLength Rsa.mersenneKey.modulus - 1) := by
    decide +kernel
  obtain ⟨verifies, signs⟩ := accepts_encoded sound .sha512 [104, 105]
  obtain ⟨signable, signedWell⟩ := signs (.ofSeed 0)
  obtain ⟨signature, signed⟩ := signable.2 room
  obtain ⟨sized, accepted⟩ := signedWell signature signed
  obtain ⟨_, _, salt, salted, encoded⟩ := (verifies signature).1.1 accepted
  rw [size] at sized encoded
  refine ⟨sound, ⟨signature, signed, sized, accepted, salt, salted, encoded⟩,
    (verifies []).2 ?_⟩
  intro emptyAccepted
  have none := ((verifies []).1.1 emptyAccepted).1
  rw [size] at none
  cases none

end BoundKey.Signer
