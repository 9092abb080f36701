import BoundKey.Jwk
import BoundKey.Proofs.Bytes
import BoundKey.Proofs.Json.Members
import BoundKey.Proofs.Text.Base64

set_option autoImplicit false

/-!
JSON Web Keys read back. The base 64 text of a number is read as this number,
the JSON text of a key as this key, and from the JSON form of a usable public
key comes the same public key, with or without a key identifier.
-/

namespace BoundKey.Jwk

@[simp] theorem decodeNat_encodeNat (number : Nat) :
    decodeNat (encodeNat number) = .ok number := by
  rw [decodeNat, encodeNat, Base64.decode_encode]
  by_cases zero : number = 0
  · rw [if_pos zero, zero]
    rfl
  · rw [if_neg zero]
    exact congrArg Except.ok (Bytes.toNat_ofNat number)

theorem toPublicKey_ofPublicKey {key : Rsa.PublicKey}
    (usable : Rsa.PublicKey.ofParts key.modulus key.exponent = .ok key) :
    (ofPublicKey key).toPublicKey = .ok key := by
  rw [toPublicKey, ofPublicKey, decodeNat_encodeNat, decodeNat_encodeNat]
  change (Rsa.PublicKey.ofParts key.modulus key.exponent).mapError _ = _
  rw [usable]
  rfl

theorem toPublicKey_withKeyId (key : Jwk) (keyId : String) :
    (key.withKeyId keyId).toPublicKey = key.toPublicKey := rfl

private def members (key : Jwk) : List (String × Option Json.Value) :=
  [("use", key.use.map .string), ("n", some (.string key.modulus)),
    ("e", some (.string key.exponent)), ("kid", key.keyId.map .string)]

private theorem members_distinct (key : Jwk) :
    ((members key).map Prod.fst).Nodup := by
  change memberNames.Nodup
  decide

private theorem members_readable (key : Jwk) (depth : Nat) (name : String)
    (value : Json.Value) (member : (name, some value) ∈ members key) :
    (value.tree.toValue? depth).isSome = true := by
  have isText : ∃ text, value = .string text := by
    simp only [members, List.mem_cons, Prod.mk.injEq, List.not_mem_nil,
      or_false] at member
    rcases member with ⟨_, same⟩ | ⟨_, same⟩ | ⟨_, same⟩ | ⟨_, same⟩
    · obtain ⟨text, _, printed⟩ := Option.map_eq_some_iff.1 same.symm
      exact ⟨text, printed.symm⟩
    · exact ⟨key.modulus, Option.some.inj same⟩
    · exact ⟨key.exponent, Option.some.inj same⟩
    · obtain ⟨text, _, printed⟩ := Option.map_eq_some_iff.1 same.symm
      exact ⟨text, printed.symm⟩
  obtain ⟨text, same⟩ := isText
  rw [same, Json.Value.tree, Json.Tree.toValue?, Json.decodeString_quotedBytes]
  rfl

theorem read?_toValue (key : Jwk) (depth : Nat) :
    Json.Codec.read? (depth + 1) (Json.Codec.toValue key).tree = some key := by
  have distinct := members_distinct key
  have untagged : "kty" ∉ memberNames := by decide
  have tagged : (Json.Codec.toValue key).tree.taggedRecord? "kty"
      memberNames (depth + 1) =
      some (kind, Json.printedRecord depth (members key)) :=
    Json.taggedRecord?_ofPresent distinct (fun _ listed => listed) untagged
      (members_readable key depth)
  have use : (Json.printedRecord depth (members key)).optional "use"
      Json.Reader.text = some key.use :=
    Json.optional_text distinct depth rfl
  have modulus : (Json.printedRecord depth (members key)).required "n"
      Json.Reader.text = some key.modulus :=
    Json.required_text distinct depth rfl
  have exponent : (Json.printedRecord depth (members key)).required "e"
      Json.Reader.text = some key.exponent :=
    Json.required_text distinct depth rfl
  have keyId : (Json.printedRecord depth (members key)).optional "kid"
      Json.Reader.text = some key.keyId :=
    Json.optional_text distinct depth rfl
  change ((Json.Codec.toValue key).tree.taggedRecord? "kty" memberNames
    (depth + 1)).bind _ = _
  rw [tagged, Option.bind_some]
  dsimp only
  rw [if_pos rfl, use, modulus, exponent, keyId]
  rfl

end BoundKey.Jwk
