import BoundKey.Proofs.Manager.Signature
import BoundKey.Proofs.Text.Blank

set_option autoImplicit false

/-!
Signers that share a key. A block carries one text, and a description of a
digest says which digest it is; so a signature over a described digest is one
for that digest and no other, and as a signature of bytes it is one of the
description.
-/

namespace BoundKey

namespace Rsa.Pkcs1

theorem text_of_signatureBlock {size : Nat} {text block : Bytes}
    (found : signatureBlock size text = some block) :
    ((block.drop 2).dropWhile (· = 0xff)).drop 1 = text := by
  rw [signatureBlock] at found
  split at found
  · cases found
  · cases found
    have run : ∀ item ∈ List.replicate (size - text.length - 3) (0xff : UInt8),
        decide (item = 0xff) = true := by
      intro item member
      rw [List.eq_of_mem_replicate member]
      rfl
    rw [List.cons_append, List.cons_append, List.drop_succ_cons,
      List.drop_succ_cons, List.drop_zero,
      Text.dropWhile_stop run (by decide), List.drop_succ_cons, List.drop_zero]

theorem signatureBlock_inj {size : Nat} {text other block : Bytes}
    (first : signatureBlock size text = some block)
    (second : signatureBlock size other = some block) : text = other :=
  (text_of_signatureBlock first).symm.trans (text_of_signatureBlock second)

/-- A signature is one of a single text. -/
theorem verify_inj {key : PublicKey} {text other signature : Bytes}
    (first : verify key text signature = true)
    (second : verify key other signature = true) : text = other :=
  signatureBlock_inj (verify_iff.1 first).2.2 (verify_iff.1 second).2.2

theorem digestPrefix_length (digest : Digest) :
    (digestPrefix digest).length = 19 := by
  cases digest with
  | _ => rfl

theorem digestPrefix_inj {digest other : Digest}
    (same : digestPrefix digest = digestPrefix other) :
    digest = other := by
  cases digest with
  | _ =>
      cases other with
      | _ => first | rfl | exact absurd same (by decide)

theorem digestInfo_eq_iff {digest other : Digest} {message text : Bytes} :
    digestInfo digest message = digestInfo other text ↔
      digest = other ∧ digest.hash message = other.hash text := by
  constructor
  · intro same
    obtain ⟨front, back⟩ := List.append_inj same
      ((digestPrefix_length digest).trans (digestPrefix_length other).symm)
    exact ⟨digestPrefix_inj front, back⟩
  · rintro ⟨rfl, same⟩
    rw [digestInfo, digestInfo, same]

theorem sign_eq_iff {key : PrivateKey} (sound : key.IsSound)
    {text signature : Bytes} (signed : sign key text = .ok signature)
    {other : Bytes} : sign key other = .ok signature ↔ text = other := by
  constructor
  · intro otherSigned
    exact verify_inj ((verify_iff_sign sound text signature).2 signed)
      ((verify_iff_sign sound other signature).2 otherSigned)
  · intro same
    rw [← same]
    exact signed

end Rsa.Pkcs1

namespace Signer

theorem pkcs1_sign_eq_ok_iff {digest : Digest} {tape : Tape}
    {message signature : Bytes} {key : Rsa.PrivateKey} :
    (pkcs1 digest).sign tape message key = .ok signature ↔
      Rsa.Pkcs1.sign key (Rsa.Pkcs1.digestInfo digest message) = .ok signature :=
  mapError_eq_ok_iff

theorem raw_sign_eq_ok_iff {tape : Tape} {message signature : Bytes}
    {key : Rsa.PrivateKey} : raw.sign tape message key = .ok signature ↔
      Rsa.Pkcs1.sign key message = .ok signature :=
  mapError_eq_ok_iff

/-- A signature over a described digest is accepted for a message exactly if it
is checked with that digest and the message has it. As a signature of bytes it
is accepted for the description alone, and is what signing this yields. -/
theorem accepted_iff_described {key : Rsa.PrivateKey} (sound : key.IsSound)
    {digest : Digest} {tape : Tape}
    {message signature : Bytes}
    (signed : (pkcs1 digest).sign tape message key = .ok signature) :
    (∀ (other : Digest) (text : Bytes),
      (pkcs1 other).verify text signature key.publicKey = .ok () ↔
      digest = other ∧ digest.hash message = other.hash text) ∧
    (∀ text : Bytes, raw.verify text signature key.publicKey = .ok () ↔
      text = Rsa.Pkcs1.digestPrefix digest ++ digest.hash message) ∧
    ∀ otherTape : Tape, raw.sign otherTape
      (Rsa.Pkcs1.digestPrefix digest ++ digest.hash message) key =
      .ok signature := by
  have described := pkcs1_sign_eq_ok_iff.1 signed
  have rawSigned (text : Bytes) (otherTape : Tape) :
      raw.sign otherTape text key = .ok signature ↔
      Rsa.Pkcs1.digestInfo digest message = text :=
    raw_sign_eq_ok_iff.trans (Rsa.Pkcs1.sign_eq_iff sound described)
  refine ⟨?_, ?_, ?_⟩
  · intro other text
    rw [Manager.isExact_pkcs1 sound other tape, pkcs1_sign_eq_ok_iff,
      Rsa.Pkcs1.sign_eq_iff sound described, Rsa.Pkcs1.digestInfo_eq_iff]
  · intro text
    rw [Manager.isExact_raw sound tape, rawSigned, eq_comm]
    rfl
  · intro otherTape
    exact (rawSigned _ otherTape).2 rfl

/-- The case of a key of two Mersenne primes: the message itself is no signed
text, and another digest does not do. -/
theorem accepted_iff_described_mersenne : Rsa.mersenneKey.IsSound ∧ ∃ signature,
    (pkcs1 .sha256).sign (.ofSeed 0) [104, 105] Rsa.mersenneKey = .ok signature ∧
    (pkcs1 .sha256).verify [104, 105] signature Rsa.mersenneKey.publicKey =
      .ok () ∧
    (pkcs1 .sha512).verify [104, 105] signature
      Rsa.mersenneKey.publicKey ≠ .ok () ∧
    raw.verify (Rsa.Pkcs1.digestInfo .sha256 [104, 105]) signature
      Rsa.mersenneKey.publicKey = .ok () ∧
    raw.verify [104, 105] signature Rsa.mersenneKey.publicKey ≠ .ok () := by
  have sound := Rsa.mersenneKey_isSound
  have size : Rsa.mersenneKey.size = 352 := by decide +kernel
  have fits : (Rsa.Pkcs1.digestInfo .sha256 [104, 105]).length +
      Rsa.Pkcs1.overhead ≤ Rsa.mersenneKey.size := by
    rw [Rsa.Pkcs1.digestInfo_length, size]
    decide
  obtain ⟨signature, made⟩ := Rsa.Pkcs1.sign_ok sound fits
  have signed : (pkcs1 .sha256).sign (.ofSeed 0) [104, 105] Rsa.mersenneKey =
      .ok signature :=
    pkcs1_sign_eq_ok_iff.2 made
  obtain ⟨described, bytes, _⟩ := accepted_iff_described sound signed
  refine ⟨sound, signature, signed, ?_, ?_, ?_, ?_⟩
  · exact (described .sha256 [104, 105]).2 ⟨rfl, rfl⟩
  · intro accepted
    exact absurd ((described .sha512 [104, 105]).1 accepted).1 (by decide)
  · exact (bytes _).2 rfl
  · intro accepted
    have lengths := congrArg List.length ((bytes _).1 accepted)
    rw [List.length_append, Rsa.Pkcs1.digestPrefix_length,
      List.length_cons] at lengths
    change 2 = 19 + _ at lengths
    omega

end Signer

end BoundKey
