import BoundKey.Proofs.Json.Plain
import BoundKey.Proofs.Jwk
import BoundKey.Proofs.Rsa.Key

set_option autoImplicit false

/-!
Thumbprints of one public key in several JSON forms. What is hashed are the
texts of modulus and exponent as they stand, while the key consists of the
numbers that these texts write. A number may be written with zero bytes in
front, so one key has several thumbprints; the forms without such zeros, the
printed one among them, have the same.
-/

namespace BoundKey.Jwk

def frontZeros (text : String) : Nat :=
  ((Base64.decode .url text).map Bytes.leadingZeros).getD 0

def padding (key : Jwk) : Nat × Nat :=
  (frontZeros key.modulus, frontZeros key.exponent)

/-! ### Texts of a number -/

/-- The text of a number is determined by the number and the zeros in front of
it. -/
theorem eq_of_decodeNat {text : String} {number : Nat}
    (read : decodeNat text = .ok number) :
    text = Base64.encode .url
      (Bytes.zeros (frontZeros text) ++ Bytes.ofNat number) := by
  unfold decodeNat at read
  cases decoded : Base64.decode .url text with
  | none =>
      rw [decoded] at read
      cases read
  | some bytes =>
      rw [decoded] at read
      cases read
      have zeros : frontZeros text = Bytes.leadingZeros bytes := by
        rw [frontZeros, decoded]
        rfl
      rw [zeros, Bytes.zeros_append_ofNat]
      exact Base64.decode_eq_some_iff.1 decoded

theorem eq_iff_frontZeros {text other : String} {number : Nat}
    (read : decodeNat text = .ok number)
    (otherRead : decodeNat other = .ok number) :
    text = other ↔ frontZeros text = frontZeros other := by
  constructor
  · exact congrArg frontZeros
  · intro same
    rw [eq_of_decodeNat read, eq_of_decodeNat otherRead, same]

theorem frontZeros_encodeNat {number : Nat} (positive : number ≠ 0) :
    frontZeros (encodeNat number) = 0 := by
  rw [frontZeros, encodeNat, if_neg positive, Base64.decode_encode]
  exact Bytes.leadingZeros_ofNat number

/-! ### Forms of a key -/

def hashedMembers (key : Jwk) : List (String × Json.Value) :=
  [("e", .string key.exponent), ("kty", .string kind), ("n", .string key.modulus)]

private theorem hashedMembers_ordered (key : Jwk) :
    (hashedMembers key).Pairwise fun member later => member.1 < later.1 := by
  have names : ((hashedMembers key).map Prod.fst).Pairwise (· < ·) := by
    change ["e", "kty", "n"].Pairwise (· < ·)
    decide
  exact List.pairwise_map.1 names

theorem hashedMembers_plain (key : Jwk) :
    (Json.Value.object (hashedMembers key)).IsPlain Json.maxDepth := by
  apply Json.Value.IsPlain.object (hashedMembers_ordered key)
  intro member listed
  simp only [hashedMembers, List.mem_cons, List.not_mem_nil, or_false] at listed
  rcases listed with rfl | rfl | rfl <;> exact .string _

theorem canonicalText_eq (key : Jwk) :
    key.canonicalText = (Json.Value.object (hashedMembers key)).render :=
  congrArg Json.Value.render (Json.Value.ofMembers_of_ordered
    (hashedMembers_ordered key))

/-- Modulus and exponent can be read off the text that is hashed. -/
theorem canonicalText_eq_iff {key other : Jwk} :
    key.canonicalText = other.canonicalText ↔ key.modulus = other.modulus ∧
      key.exponent = other.exponent := by
  constructor
  · intro same
    rw [canonicalText_eq, canonicalText_eq] at same
    have members :=
      (hashedMembers_plain key).eq_of_render (hashedMembers_plain other) same
    simp only [hashedMembers, Json.Value.object.injEq, List.cons.injEq,
      Prod.mk.injEq, Json.Value.string.injEq, true_and, and_true] at members
    exact ⟨members.2, members.1⟩
  · rintro ⟨moduli, exponents⟩
    rw [canonicalText, canonicalText, moduli, exponents]

theorem toPublicKey_eq_ok_iff {form : Jwk} {key : Rsa.PublicKey} :
    form.toPublicKey = .ok key ↔ decodeNat form.modulus = .ok key.modulus ∧
      decodeNat form.exponent = .ok key.exponent ∧
      bitLength key.modulus ≤ Rsa.maxModulusBits ∧ key.check = .ok () := by
  constructor
  · intro denotes
    obtain ⟨modulus, modulusRead, rest⟩ := bind_eq_ok_iff.1 denotes
    obtain ⟨exponent, exponentRead, built⟩ := bind_eq_ok_iff.1 rest
    obtain ⟨rfl, sized, usable⟩ :=
      Rsa.PublicKey.ofParts_eq_ok_iff.1 (mapError_eq_ok_iff.1 built)
    exact ⟨modulusRead, exponentRead, sized, usable⟩
  · rintro ⟨modulusRead, exponentRead, sized, usable⟩
    have built : Rsa.PublicKey.ofParts key.modulus key.exponent = .ok key :=
      Rsa.PublicKey.ofParts_eq_ok_iff.2 ⟨rfl, sized, usable⟩
    exact bind_eq_ok_iff.2 ⟨_, modulusRead,
      bind_eq_ok_iff.2 ⟨_, exponentRead, mapError_eq_ok_iff.2 built⟩⟩

theorem ofPublicKey_of_denotes {form : Jwk} {key : Rsa.PublicKey}
    (denotes : form.toPublicKey = .ok key) :
    (ofPublicKey key).toPublicKey = .ok key ∧
      (ofPublicKey key).padding = (0, 0) := by
  obtain ⟨_, _, sized, usable⟩ := toPublicKey_eq_ok_iff.1 denotes
  obtain ⟨modulusPositive, exponentPositive⟩ := Rsa.PublicKey.pos_of_check usable
  constructor
  · exact toPublicKey_ofPublicKey
      (Rsa.PublicKey.ofParts_eq_ok_iff.2 ⟨rfl, sized, usable⟩)
  · change (frontZeros (encodeNat key.modulus),
      frontZeros (encodeNat key.exponent)) = (0, 0)
    rw [frontZeros_encodeNat modulusPositive,
      frontZeros_encodeNat exponentPositive]

theorem canonicalText_eq_iff_padding {form other : Jwk} {key : Rsa.PublicKey}
    (denotes : form.toPublicKey = .ok key)
    (otherDenotes : other.toPublicKey = .ok key) :
    form.canonicalText = other.canonicalText ↔ form.padding = other.padding := by
  obtain ⟨modulus, exponent, _⟩ := toPublicKey_eq_ok_iff.1 denotes
  obtain ⟨otherModulus, otherExponent, _⟩ := toPublicKey_eq_ok_iff.1 otherDenotes
  rw [canonicalText_eq_iff, eq_iff_frontZeros modulus otherModulus,
    eq_iff_frontZeros exponent otherExponent, padding, padding, Prod.mk.injEq]

theorem thumbprint_of_canonicalText
    {form other : Jwk} (same : form.canonicalText = other.canonicalText)
    (hasher : Hasher) : form.thumbprint hasher = other.thumbprint hasher := by
  rw [thumbprint, same, thumbprint]

/-- The thumbprint of a form is that of its key if there are no zeros in front
of modulus and exponent, and only then is the same text hashed. Any two forms of
a key have the same thumbprint if they have the same zeros in front, and again
only then is the same text hashed; use and key identifier make no difference. -/
theorem thumbprint_of_denotes {form : Jwk} {key : Rsa.PublicKey}
    (denotes : form.toPublicKey = .ok key) :
    (form.canonicalText = (ofPublicKey key).canonicalText ↔
      form.padding = (0, 0)) ∧
    (form.padding = (0, 0) → form.thumbprint .sha256 = key.thumbprint) ∧
    ∀ other : Jwk, other.toPublicKey = .ok key →
      (form.canonicalText = other.canonicalText ↔ form.padding = other.padding) ∧
      (form.padding = other.padding → ∀ hasher : Hasher,
        form.thumbprint hasher = other.thumbprint hasher) := by
  obtain ⟨printedDenotes, unpadded⟩ := ofPublicKey_of_denotes denotes
  have printed := canonicalText_eq_iff_padding denotes printedDenotes
  rw [unpadded] at printed
  refine ⟨printed, ?_, ?_⟩
  · intro none
    exact thumbprint_of_canonicalText (printed.2 none) .sha256
  · intro other otherDenotes
    have same := canonicalText_eq_iff_padding denotes otherDenotes
    exact ⟨same, fun zeros hasher =>
      thumbprint_of_canonicalText (same.2 zeros) hasher⟩

/-- The case of the modulus 15 and the exponent 3, once as a plain form with use
and key identifier and once with two zeros in front of the modulus. -/
theorem thumbprint_of_denotes_fifteen :
    (⟨some "sig", "Dw", "Aw", some "a"⟩ : Jwk).toPublicKey = .ok ⟨15, 3⟩ ∧
    (⟨some "sig", "Dw", "Aw", some "a"⟩ : Jwk).thumbprint .sha256 =
      Rsa.PublicKey.thumbprint ⟨15, 3⟩ ∧
    (⟨none, "AAAP", "Aw", none⟩ : Jwk).toPublicKey = .ok ⟨15, 3⟩ ∧
    (⟨none, "AAAP", "Aw", none⟩ : Jwk).canonicalText ≠
      (ofPublicKey ⟨15, 3⟩).canonicalText := by
  have plain : (⟨some "sig", "Dw", "Aw", some "a"⟩ : Jwk).toPublicKey =
      .ok ⟨15, 3⟩ := by decide +kernel
  have padded : (⟨none, "AAAP", "Aw", none⟩ : Jwk).toPublicKey =
      .ok ⟨15, 3⟩ := by decide +kernel
  have unpadded : (⟨some "sig", "Dw", "Aw", some "a"⟩ : Jwk).padding =
      (0, 0) := by decide +kernel
  have zeros : (⟨none, "AAAP", "Aw", none⟩ : Jwk).padding ≠ (0, 0) := by
    decide +kernel
  obtain ⟨_, agrees, _⟩ := thumbprint_of_denotes plain
  obtain ⟨hashed, _⟩ := thumbprint_of_denotes padded
  exact ⟨plain, agrees unpadded, padded, fun same => zeros (hashed.1 same)⟩

/-- Two forms of the modulus 15 and the exponent 3 with different thumbprints:
the printed one and one that has a zero byte in front of the exponent. -/
theorem thumbprint_not_unique :
    ∃ form : Jwk,
      Json.decode? (Utf8.encode
        "\x7b\"kty\":\"RSA\",\"n\":\"Dw\",\"e\":\"AAM\"\x7d") = some form ∧
      form.toPublicKey = .ok ⟨15, 3⟩ ∧
      (ofPublicKey ⟨15, 3⟩).toPublicKey = .ok ⟨15, 3⟩ ∧
      form.thumbprint .sha256 ≠ Rsa.PublicKey.thumbprint ⟨15, 3⟩ := by
  refine ⟨⟨none, "Dw", "AAM", none⟩, ?_, ?_, ?_, ?_⟩ <;> decide +kernel

end BoundKey.Jwk
