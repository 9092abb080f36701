import BoundKey.Json.Value
import BoundKey.Text.Decimal
import BoundKey.Text.Hex

set_option autoImplicit false

/-!
Values as JSON text without white space. In strings only quotes, backslashes and
control characters are escaped; members stand in the order in which the object
lists them.
-/

namespace BoundKey.Json

def escape (char : Char) : List Char :=
  if char = '"' then ['\\', '"']
  else if char = '\\' then ['\\', '\\']
  else if char = '\n' then ['\\', 'n']
  else if char = '\r' then ['\\', 'r']
  else if char = '\t' then ['\\', 't']
  else if char.toNat = 8 then ['\\', 'b']
  else if char.toNat = 12 then ['\\', 'f']
  else if char.toNat < 0x20 then
    ['\\', 'u', '0', '0', Hex.digit (char.toNat / 16),
      Hex.digit (char.toNat % 16)]
  else [char]

def quote (text : String) : List Char :=
  '"' :: text.toList.flatMap escape ++ ['"']

/-- The text of a number. A fraction is written without an exponent and with at
least one digit after the point. -/
def Number.chars : Number → List Char
  | .int value => Decimal.chars value
  | .decimal negative digits exponent =>
    let sign := if negative then ['-'] else []
    if 0 ≤ exponent then
      sign ++ Decimal.digits (digits * Nat.pow 10 exponent.toNat) ++ ['.', '0']
    else
      let scale := Nat.pow 10 (-exponent).toNat
      let fraction := Decimal.digits (digits % scale)
      sign ++ Decimal.digits (digits / scale) ++ '.'
        :: List.replicate ((-exponent).toNat - fraction.length) '0' ++ fraction

mutual

def Value.chars : Value → List Char
  | .null => ['n', 'u', 'l', 'l']
  | .bool true => ['t', 'r', 'u', 'e']
  | .bool false => ['f', 'a', 'l', 's', 'e']
  | .number value => value.chars
  | .string text => quote text
  | .array [] => ['[', ']']
  | .array (first :: rest) => '[' :: first.chars ++ itemsChars rest
  | .object [] => ['\x7b', '\x7d']
  | .object ((name, first) :: rest) =>
    '\x7b' :: quote name ++ ':' :: first.chars ++ membersChars rest

def itemsChars : List Value → List Char
  | [] => [']']
  | first :: rest => ',' :: first.chars ++ itemsChars rest

def membersChars : List (String × Value) → List Char
  | [] => ['\x7d']
  | (name, first) :: rest =>
      ',' :: quote name ++ ':' :: first.chars ++ membersChars rest

end

def Value.render (value : Value) : String :=
  String.ofList value.chars

end BoundKey.Json
