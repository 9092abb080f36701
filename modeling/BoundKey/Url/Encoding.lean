import BoundKey.Text.Hex
import BoundKey.Text.Utf8

set_option autoImplicit false

/-!
Percent encoding. Characters beyond ASCII, controls and, depending on the part
of a URL, some others are written as a percent sign and two digits for each of
their bytes.
-/

namespace BoundKey.Url

inductive Part where
  | opaquePath
  | fragment
  | query
  | specialQuery
  | path
  | credentials
  deriving DecidableEq, Repr

def Part.reserved : Part → List Char
  | opaquePath => []
  | fragment => [' ', '"', '<', '>', '\x60']
  | query => [' ', '"', '#', '<', '>']
  | specialQuery => [' ', '"', '#', '<', '>', '\'']
  | path => [' ', '"', '<', '>', '\x60', '#', '?', '\x7b', '\x7d']
  | credentials =>
    [' ', '"', '<', '>', '\x60', '#', '?', '\x7b', '\x7d', '/', ':', ';', '=',
      '@', '[', '\\', ']', '^', '|']

def Part.encodes (part : Part) (char : Char) : Bool :=
  char.toNat < 0x20 || 0x7f ≤ char.toNat || part.reserved.contains char

def percent (byte : UInt8) : List Char :=
  '%' :: (Hex.byteDigits byte).map Char.toUpper

def encode (part : Part) (text : List Char) : List Char :=
  text.flatMap fun char =>
    if part.encodes char then (String.utf8EncodeChar char).flatMap percent
    else [char]

def digitPair? (high low : UInt8) : Option UInt8 := do
  let upper ← Hex.value? (Char.ofNat high.toNat)
  let lower ← Hex.value? (Char.ofNat low.toNat)
  some (UInt8.ofNat (upper * 16 + lower))

def decodeBytes : Bytes → Bytes
  | 0x25 :: high :: low :: rest =>
    match digitPair? high low with
    | some byte => byte :: decodeBytes rest
    | none => 0x25 :: decodeBytes (high :: low :: rest)
  | byte :: rest => byte :: decodeBytes rest
  | [] => []

end BoundKey.Url
