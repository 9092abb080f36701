import BoundKey.Bytes

set_option autoImplicit false

/-!
Base 64 text in three forms: the common alphabet with or without padding, and
the alphabet for URLs without padding. Reading is strict: it accepts exactly
what writing produces, so foreign characters, white space, missing or surplus
padding and non-zero left-over bits are refused.
-/

namespace BoundKey.Base64

inductive Form where
  | padded
  | unpadded
  | url
  deriving DecidableEq, Repr

namespace Form

def lastTwo : Form → Char × Char
  | url => ('-', '_')
  | _ => ('+', '/')

end Form

def digit (form : Form) (value : Nat) : Char :=
  if value < 26 then Char.ofNat (65 + value)
  else if value < 52 then Char.ofNat (71 + value)
  else if value < 62 then Char.ofNat (value - 4)
  else if value = 62 then form.lastTwo.1
  else form.lastTwo.2

def value? (form : Form) (char : Char) : Option Nat :=
  if 'A' ≤ char ∧ char ≤ 'Z' then some (char.toNat - 65)
  else if 'a' ≤ char ∧ char ≤ 'z' then some (char.toNat - 71)
  else if '0' ≤ char ∧ char ≤ '9' then some (char.toNat + 4)
  else if char = form.lastTwo.1 then some 62
  else if char = form.lastTwo.2 then some 63
  else none

/-- The six-bit values of a byte string; left-over bits are filled with
zeros. -/
def sextets : Bytes → List Nat
  | [] => []
  | [a] => [a.toNat / 4, a.toNat % 4 * 16]
  | [a, b] => [a.toNat / 4, a.toNat % 4 * 16 + b.toNat / 16, b.toNat % 16 * 4]
  | a :: b :: c :: rest =>
    a.toNat / 4 :: (a.toNat % 4 * 16 + b.toNat / 16) ::
      (b.toNat % 16 * 4 + c.toNat / 64) :: c.toNat % 64 :: sextets rest

/-- The bytes of a list of six-bit values; left-over bits must be zero. -/
def ofSextets : List Nat → Option Bytes
  | [] => some []
  | [_] => none
  | [a, b] => if b % 16 = 0 then some [UInt8.ofNat (a * 4 + b / 16)] else none
  | [a, b, c] =>
    if c % 4 = 0 then
      some [UInt8.ofNat (a * 4 + b / 16), UInt8.ofNat (b % 16 * 16 + c / 4)]
    else none
  | a :: b :: c :: d :: rest =>
    (ofSextets rest).map fun bytes =>
      UInt8.ofNat (a * 4 + b / 16) :: UInt8.ofNat (b % 16 * 16 + c / 4)
        :: UInt8.ofNat (c % 4 * 64 + d) :: bytes

def padding (form : Form) (count : Nat) : List Char :=
  match form with
  | .padded => List.replicate ((4 - count % 4) % 4) '='
  | _ => []

def encode (form : Form) (bytes : Bytes) : String :=
  let chars := (sextets bytes).map (digit form)
  String.ofList (chars ++ padding form chars.length)

/-- The bytes of a text, if it is a text that `encode` produces. -/
def decode (form : Form) (text : String) : Option Bytes := do
  let body := text.toList.takeWhile (· ≠ '=')
  let tail := text.toList.dropWhile (· ≠ '=')
  if tail = padding form body.length then
    let values ← body.mapM (value? form)
    ofSextets values
  else none

def refusal : String :=
  "Invalid input for the given encoding"

end BoundKey.Base64
