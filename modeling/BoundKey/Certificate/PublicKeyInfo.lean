import BoundKey.Der.Identifier
import BoundKey.Rsa.Key

set_option autoImplicit false

/-!
RSA public keys in the form that certificates use: modulus and exponent as a
sequence inside a bit string, behind the identifier of the kind of key.
-/

namespace BoundKey.Rsa.PublicKey

open Der (Element Identifier Tag)

def keyKind : Identifier :=
  ⟨[1, 2, 840, 113549, 1, 1, 1]⟩

def toElement (key : PublicKey) : Element :=
  .sequence [.natural key.modulus, .natural key.exponent]

def ofElement? (element : Element) : Option PublicKey := do
  match ← element.parts? Tag.sequence with
  | [modulus, exponent] => some ⟨← modulus.toNatural?, ← exponent.toNatural?⟩
  | _ => none

def toInfo (key : PublicKey) : Element :=
  .sequence [.sequence [keyKind.toElement, .null], .bits key.toElement.encode]

def ofInfo? (element : Element) : Option PublicKey := do
  match ← element.parts? Tag.sequence with
  | [kind, bits] =>
    if kind = .sequence [keyKind.toElement, .null] then
      let encoded ← bits.toBits?
      let inner ← (Element.decode encoded).toOption
      ofElement? inner
    else none
  | _ => none

def toDer (key : PublicKey) : Bytes :=
  key.toInfo.encode

end BoundKey.Rsa.PublicKey
