import BoundKey.Proofs.Json.ObjectText
import BoundKey.Proofs.Jwk.Thumbprint

set_option autoImplicit false

/-!
The text that is hashed for a thumbprint. It is one JSON object without white
space, with the members `e`, `kty` and `n` in this order, and these three values
are read back from it, whatever characters they have: no text within quotes can
pass for the end of a member. Use and key identifier do not enter. Since the
texts of two numbers differ, too, two public keys have one thumbprint only where
the hasher takes two different texts to the same value.
-/

namespace BoundKey

namespace Jwk

theorem encodeNat_inj {number other : Nat} :
    encodeNat number = encodeNat other ↔ number = other := by
  constructor
  · intro same
    have read := decodeNat_encodeNat number
    rw [same, decodeNat_encodeNat] at read
    exact (Except.ok.inj read).symm
  · exact congrArg encodeNat

theorem canonicalText_eq_objectText (key : Jwk) :
    key.canonicalText = Json.objectText
    [("e", Json.quoted key.exponent), ("kty", Json.quoted "RSA"),
      ("n", Json.quoted key.modulus)] := by
  rw [canonicalText_eq, Json.render_object]
  simp [hashedMembers, kind]

theorem decode?_canonicalText (key : Jwk) :
    Json.decode? (Utf8.encode key.canonicalText) =
    some (Json.Value.object [("e", .string key.exponent),
      ("kty", .string "RSA"), ("n", .string key.modulus)]) := by
  rw [canonicalText_eq]
  exact (hashedMembers_plain key).decode?_render

theorem encode_canonicalText_inj {key other : Jwk} :
    Utf8.encode key.canonicalText = Utf8.encode other.canonicalText ↔
      key.modulus = other.modulus ∧ key.exponent = other.exponent :=
  Utf8.encode_inj.trans canonicalText_eq_iff

theorem canonicalText_ofPublicKey_inj {key other : Rsa.PublicKey} :
    Utf8.encode (ofPublicKey key).canonicalText =
      Utf8.encode (ofPublicKey other).canonicalText ↔ key = other := by
  rw [encode_canonicalText_inj]
  constructor
  · intro same
    rcases same with ⟨moduli, exponents⟩
    have modulus : key.modulus = other.modulus := encodeNat_inj.1 moduli
    have exponent : key.exponent = other.exponent := encodeNat_inj.1 exponents
    cases key
    cases other
    rw [Rsa.PublicKey.mk.injEq]
    exact ⟨modulus, exponent⟩
  · intro same
    rw [same]
    exact ⟨rfl, rfl⟩

/-- A thumbprint of the standard hasher is the digest of the text, and base 64
keeps digests apart. -/
theorem hash_eq_of_thumbprint {key other : Rsa.PublicKey}
    (same : key.thumbprint = other.thumbprint) :
    Digest.sha256.hash (Utf8.encode (ofPublicKey key).canonicalText) =
      Digest.sha256.hash (Utf8.encode (ofPublicKey other).canonicalText) :=
  Base64.encode_inj.1 (Except.ok.inj same)

theorem hashText_of_thumbprint {key : Jwk} {hasher : Hasher} {text : String}
    (computed : key.thumbprint hasher = .ok text) :
    hasher.hashText (Utf8.encode key.canonicalText) = .ok text :=
  mapError_eq_ok_iff.1 computed

/-- What a hasher is given for a thumbprint is the text of an object of
exponent, kind and modulus, from which these are read again; it is the same for
every use and key identifier, and the same for two forms only if they agree in
modulus and exponent. Two public keys with one thumbprint are one key, or there
are two different texts with one hash, which the standard hasher takes to one
digest of SHA-256. -/
theorem thumbprint_input_canonical (key other : Jwk) :
    (∀ hasher : Hasher, key.thumbprint hasher =
      (hasher.hashText (Utf8.encode key.canonicalText)).mapError
        JwkFault.hasher) ∧
    key.canonicalText = Json.objectText
      [("e", Json.quoted key.exponent), ("kty", Json.quoted "RSA"),
        ("n", Json.quoted key.modulus)] ∧
    Json.decode? (Utf8.encode key.canonicalText) =
      some (Json.Value.object [("e", .string key.exponent),
        ("kty", .string "RSA"), ("n", .string key.modulus)]) ∧
    (∀ use keyId : Option String,
      (⟨use, key.modulus, key.exponent, keyId⟩ : Jwk).canonicalText =
        key.canonicalText) ∧
    (∀ keyId : String, (key.withKeyId keyId).canonicalText = key.canonicalText) ∧
    (Utf8.encode key.canonicalText = Utf8.encode other.canonicalText ↔
      key.modulus = other.modulus ∧ key.exponent = other.exponent) ∧
    (∀ (first second : Rsa.PublicKey) (hasher : Hasher) (text : String),
      (ofPublicKey first).thumbprint hasher = .ok text →
        (ofPublicKey second).thumbprint hasher = .ok text →
      first = second ∨
        (Utf8.encode (ofPublicKey first).canonicalText ≠
          Utf8.encode (ofPublicKey second).canonicalText ∧
          hasher.hashText (Utf8.encode (ofPublicKey first).canonicalText) =
            .ok text ∧
          hasher.hashText (Utf8.encode (ofPublicKey second).canonicalText) =
            .ok text)) ∧
    ∀ first second : Rsa.PublicKey, first.thumbprint = second.thumbprint →
      first = second ∨
        (Utf8.encode (ofPublicKey first).canonicalText ≠
          Utf8.encode (ofPublicKey second).canonicalText ∧
          Digest.sha256.hash (Utf8.encode (ofPublicKey first).canonicalText) =
            Digest.sha256.hash
              (Utf8.encode (ofPublicKey second).canonicalText)) := by
  have apart {first second : Rsa.PublicKey} (differ : first ≠ second) :
      Utf8.encode (ofPublicKey first).canonicalText ≠
        Utf8.encode (ofPublicKey second).canonicalText :=
    fun texts => differ (canonicalText_ofPublicKey_inj.1 texts)
  refine ⟨fun hasher => rfl, canonicalText_eq_objectText key,
    decode?_canonicalText key, fun use keyId => rfl,
    fun keyId => rfl, encode_canonicalText_inj, ?_, ?_⟩
  · intro first second hasher text computed again
    by_cases same : first = second
    · exact .inl same
    · exact .inr ⟨apart same, hashText_of_thumbprint computed,
        hashText_of_thumbprint again⟩
  · intro first second computed
    by_cases same : first = second
    · exact .inl same
    · exact .inr ⟨apart same, hash_eq_of_thumbprint computed⟩

/-- The case of an exponent that looks like the members behind it, and of a
hasher that takes all texts to one. -/
theorem thumbprint_input_canonical_quotes :
    (⟨some "sig", "Dw", "Aw\",\"kty\":\"RSA\\", some "a"⟩ : Jwk).canonicalText =
      "\x7b\"e\":\"Aw\\\",\\\"kty\\\":\\\"RSA\\\\\",\"kty\":\"RSA\",\"n\":\"Dw\"\x7d" ∧
    Utf8.encode
        (⟨some "sig", "Dw", "Aw\",\"kty\":\"RSA\\", some "a"⟩ :
          Jwk).canonicalText ≠
      Utf8.encode (⟨none, "Dw", "Aw", none⟩ : Jwk).canonicalText ∧
    (ofPublicKey ⟨15, 3⟩).thumbprint ⟨fun _ => .ok [], fun _ => .ok "one"⟩ =
      .ok "one" ∧
    (ofPublicKey ⟨15, 5⟩).thumbprint ⟨fun _ => .ok [], fun _ => .ok "one"⟩ =
      .ok "one" ∧
    Utf8.encode (ofPublicKey ⟨15, 3⟩).canonicalText ≠
      Utf8.encode (ofPublicKey ⟨15, 5⟩).canonicalText := by
  obtain ⟨_, text, _, _, _, apart, keys, _⟩ := thumbprint_input_canonical
    ⟨some "sig", "Dw", "Aw\",\"kty\":\"RSA\\", some "a"⟩ ⟨none, "Dw", "Aw", none⟩
  refine ⟨text.trans (by decide +kernel),
    fun same => absurd (apart.1 same).2 (by decide), rfl, rfl, ?_⟩
  rcases keys ⟨15, 3⟩ ⟨15, 5⟩ ⟨fun _ => .ok [], fun _ => .ok "one"⟩ "one" rfl
    rfl with same | collision
  · exact absurd same (by decide)
  · exact collision.1

end Jwk

end BoundKey
