import BoundKey.Bytes

set_option autoImplicit false

/-!
Hexadecimal text: two digits a byte, lower case when written, either case when
read.
-/

namespace BoundKey.Hex

def digit (value : Nat) : Char :=
  if value < 10 then Char.ofNat (48 + value) else Char.ofNat (87 + value)

def value? (char : Char) : Option Nat :=
  if '0' ≤ char ∧ char ≤ '9' then some (char.toNat - 48)
  else if 'a' ≤ char ∧ char ≤ 'f' then some (char.toNat - 87)
  else if 'A' ≤ char ∧ char ≤ 'F' then some (char.toNat - 55)
  else none

def byteDigits (byte : UInt8) : List Char :=
  [digit (byte.toNat / 16), digit (byte.toNat % 16)]

def encode (bytes : Bytes) : String :=
  String.ofList (bytes.flatMap byteDigits)

def decodeChars : List Char → Option Bytes
  | [] => some []
  | high :: low :: rest => do
    let upper ← value? high
    let lower ← value? low
    let bytes ← decodeChars rest
    some (UInt8.ofNat (upper * 16 + lower) :: bytes)
  | [_] => none

def decode (text : String) : Option Bytes :=
  decodeChars text.toList

def ofNat (number : Nat) : String :=
  String.ofList (Nat.toDigits 16 number)

end BoundKey.Hex
