set_option autoImplicit false

/-!
Whole numbers as decimal text: no leading zeros, and a minus sign before a
negative number.
-/

namespace BoundKey.Decimal

def digit (value : Nat) : Char :=
  Char.ofNat (48 + value)

def digits (number : Nat) : List Char :=
  if number < 10 then [digit number]
  else digits (number / 10) ++ [digit (number % 10)]
termination_by number

def chars : Int → List Char
  | .ofNat number => digits number
  | .negSucc number => '-' :: digits (number + 1)

def value (characters : List Char) : Nat :=
  characters.foldl (fun number char => number * 10 + (char.toNat - 48)) 0

end BoundKey.Decimal
