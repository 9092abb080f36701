import BoundKey.Text.Hex

set_option autoImplicit false

/-!
Quoted text as it appears inside messages: double quotes around, a backslash
before a quote or a backslash, short escapes for the common control characters,
and the code point in braces for the other ones.
-/

namespace BoundKey.Text.Quoted

def escape (char : Char) : List Char :=
  if char = '"' then ['\\', '"']
  else if char = '\\' then ['\\', '\\']
  else if char = '\n' then ['\\', 'n']
  else if char = '\r' then ['\\', 'r']
  else if char = '\t' then ['\\', 't']
  else if char.toNat = 0 then ['\\', '0']
  else if char.toNat < 0x20 ∨ (0x7f ≤ char.toNat ∧ char.toNat < 0xa0) then
    ['\\', 'u', '\x7b'] ++ (Hex.ofNat char.toNat).toList ++ ['\x7d']
  else [char]

def encode (text : String) : String :=
  String.ofList ('"' :: text.toList.flatMap escape ++ ['"'])

end BoundKey.Text.Quoted
