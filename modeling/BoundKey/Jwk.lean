import BoundKey.Crypto.Primitive
import BoundKey.Json.Record

set_option autoImplicit false

/-!
RSA public keys as JSON Web Keys, and their thumbprints. A thumbprint is the
digest of the members that make the key, in the order of their names and without
white space; use and key identifier do not enter.
-/

namespace BoundKey

inductive JwkFault where
  | encoding (reason : String)
  | invalidKey (reason : String)
  | json (reason : String)
  | hasher (cause : HasherFault)
  deriving DecidableEq, Repr

def JwkFault.message : JwkFault → String
  | encoding reason => s!"Could not encode key material: `{reason}`"
  | invalidKey reason => s!"Invalid key: `{reason}`"
  | json reason => s!"Could not serialize JWK: `{reason}`"
  | hasher cause => s!"Hasher error: `{cause.message}`"

structure Jwk where
  use : Option String
  modulus : String
  exponent : String
  keyId : Option String
  deriving DecidableEq, Repr

namespace Jwk

def kind : String := "RSA"

def memberNames : List String :=
  ["use", "n", "e", "kid"]

instance : Json.Codec Jwk where
  toValue key := .ofPresent [
    ("kty", some (.string kind)),
    ("use", key.use.map .string),
    ("n", some (.string key.modulus)),
    ("e", some (.string key.exponent)),
    ("kid", key.keyId.map .string)]
  read? depth tree := do
    let (named, record) ← tree.taggedRecord? "kty" memberNames depth
    if named = kind then
      let use ← record.optional "use" Json.Reader.text
      let modulus ← record.required "n" Json.Reader.text
      let exponent ← record.required "e" Json.Reader.text
      let keyId ← record.optional "kid" Json.Reader.text
      some ⟨use, modulus, exponent, keyId⟩
    else none

/-- The text of a number: base 64 of its fewest bytes, zero being one byte. -/
def encodeNat (number : Nat) : String :=
  Base64.encode .url (if number = 0 then [0] else Bytes.ofNat number)

def decodeNat (text : String) : Except JwkFault Nat :=
  match Base64.decode .url text with
  | some bytes => .ok (Bytes.toNat bytes)
  | none => .error (.encoding Base64.refusal)

def ofPublicKey (key : Rsa.PublicKey) : Jwk :=
  ⟨none, encodeNat key.modulus, encodeNat key.exponent, none⟩

def withKeyId (key : Jwk) (keyId : String) : Jwk :=
  { key with keyId := some keyId }

def toPublicKey (key : Jwk) : Except JwkFault Rsa.PublicKey := do
  let modulus ← decodeNat key.modulus
  let exponent ← decodeNat key.exponent
  (Rsa.PublicKey.ofParts modulus exponent).mapError fun fault =>
    .invalidKey fault.message

/-- The text whose digest is the thumbprint. -/
def canonicalText (key : Jwk) : String :=
  (Json.Value.ofMembers [
    ("e", .string key.exponent), ("kty", .string kind),
    ("n", .string key.modulus)]).render

def thumbprint (key : Jwk) (hasher : Hasher) : Except JwkFault String :=
  (hasher.hashText (Utf8.encode key.canonicalText)).mapError .hasher

def toJson (key : Jwk) : String :=
  Json.encode key

end Jwk

def Rsa.PublicKey.thumbprint (key : Rsa.PublicKey) : Except JwkFault String :=
  (Jwk.ofPublicKey key).thumbprint .sha256

end BoundKey
