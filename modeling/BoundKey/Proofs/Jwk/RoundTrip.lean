import BoundKey.Proofs.Jwk.Thumbprint

set_option autoImplicit false

/-!
JSON Web Keys written and read. The JSON text of a form is read as this form,
whatever its texts are; a usable public key is written in the fewest bytes and
read back from its JSON text, with any key identifier; and whatever form a
public key was read from, its printed form stands for the same key.
-/

namespace BoundKey.Jwk

def Writes (text : String) (number : Nat) : Prop :=
  ∃ bytes, text = Base64.encode .url bytes ∧ Bytes.toNat bytes = number ∧
    ∀ other, Bytes.toNat other = number → bytes.length ≤ other.length

theorem writes_encodeNat {number : Nat} (positive : number ≠ 0) :
    Writes (encodeNat number) number := by
  refine ⟨Bytes.ofNat number, ?_, Bytes.toNat_ofNat number, fun other written =>
    Bytes.length_ofNat_le written⟩
  rw [encodeNat, if_neg positive]

theorem decode?_toJson (form : Jwk) :
    Json.decode? (Utf8.encode form.toJson) = some form :=
  Json.decode?_encode (form.read?_toValue 126)

/-- Reading undoes writing. It does so for every form and its JSON text; for
every usable public key of limited size and its form, which writes modulus and
exponent in the fewest bytes, and from the JSON text of this form with any key
identifier the key is read again; and for every key that was read from a form,
however its numbers were written there. -/
theorem reading_undoes_writing :
    (∀ form : Jwk, Json.decode? (Utf8.encode form.toJson) = some form) ∧
    (∀ (modulus exponent : Nat) (key : Rsa.PublicKey),
      Rsa.PublicKey.ofParts modulus exponent = .ok key →
      key = ⟨modulus, exponent⟩ ∧ (ofPublicKey key).use = none ∧
        (ofPublicKey key).keyId = none ∧
      Writes (ofPublicKey key).modulus modulus ∧
      Writes (ofPublicKey key).exponent exponent ∧
      ∀ keyId : String, ∃ form : Jwk,
        Json.decode? (Utf8.encode ((ofPublicKey key).withKeyId keyId).toJson) =
          some form ∧
        form.keyId = some keyId ∧ form.toPublicKey = .ok key) ∧
    ∀ (form : Jwk) (key : Rsa.PublicKey), form.toPublicKey = .ok key →
      (ofPublicKey key).toPublicKey = .ok key := by
  refine ⟨decode?_toJson, ?_, ?_⟩
  · intro modulus exponent key built
    obtain ⟨rfl, _, usable⟩ := Rsa.PublicKey.ofParts_eq_ok_iff.1 built
    obtain ⟨modulusPositive, exponentPositive⟩ :=
      Rsa.PublicKey.pos_of_check usable
    refine ⟨rfl, rfl, rfl, writes_encodeNat modulusPositive,
      writes_encodeNat exponentPositive, ?_⟩
    intro keyId
    refine ⟨_, decode?_toJson _, rfl, ?_⟩
    rw [toPublicKey_withKeyId]
    exact toPublicKey_ofPublicKey built
  · intro form key denotes
    exact (ofPublicKey_of_denotes denotes).1

/-- The case of a modulus whose first bit is set, of a key identifier that JSON
has to escape, and of a form with two zero bytes in front of the modulus. -/
theorem reading_undoes_writing_firstBit :
    Rsa.PublicKey.ofParts 0x80ff01 0x10001 = .ok ⟨0x80ff01, 0x10001⟩ ∧
    Writes (ofPublicKey ⟨0x80ff01, 0x10001⟩).modulus 0x80ff01 ∧
    (∃ form : Jwk,
      Json.decode? (Utf8.encode ((ofPublicKey ⟨0x80ff01, 0x10001⟩).withKeyId
        "\"\\\u0000é").toJson) = some form ∧
      form.keyId = some "\"\\\u0000é" ∧
      form.toPublicKey = .ok ⟨0x80ff01, 0x10001⟩) ∧
    (⟨some "sig", "AAAP", "Aw", none⟩ : Jwk).toPublicKey = .ok ⟨15, 3⟩ ∧
    (ofPublicKey ⟨15, 3⟩).toPublicKey = .ok ⟨15, 3⟩ := by
  have built : Rsa.PublicKey.ofParts 0x80ff01 0x10001 =
      .ok ⟨0x80ff01, 0x10001⟩ := by decide +kernel
  have padded : (⟨some "sig", "AAAP", "Aw", none⟩ : Jwk).toPublicKey =
      .ok ⟨15, 3⟩ := by decide +kernel
  obtain ⟨_, ofKey, ofForm⟩ := reading_undoes_writing
  obtain ⟨_, _, _, modulus, _, read⟩ := ofKey _ _ _ built
  exact ⟨built, modulus, read "\"\\\u0000é", padded, ofForm _ _ padded⟩

end BoundKey.Jwk
