import BoundKey.Bytes
import BoundKey.Rsa.Arithmetic
import BoundKey.Tape

set_option autoImplicit false

/-!
Random primes. Candidates of a given length are drawn from a tape until one has
no small divisor and passes the test of Miller and Rabin for every base on a
list.
-/

namespace BoundKey.Rsa

def hasNoDivisor (number : Nat) : Bool :=
  2 ≤ number && (List.range number).all fun divisor =>
    divisor < 2 || number % divisor ≠ 0

def primesBelow (limit : Nat) : List Nat :=
  (List.range limit).filter hasNoDivisor

def smallProduct : Nat :=
  (primesBelow 1000).foldl (· * ·) 1

def testBases : List Nat :=
  primesBelow 72

def splitTwos : Nat → Nat → Nat × Nat
  | 0, number => (0, number)
  | limit + 1, number =>
    if number % 2 = 0 then
      let (count, odd) := splitTwos limit (number / 2)
      (count + 1, odd)
    else (0, number)

def reachesMinusOne (modulus : Nat) : Nat → Nat → Bool
  | 0, _ => false
  | count + 1, value =>
    value == modulus - 1 || reachesMinusOne modulus count
      (value * value % modulus)

def passesFor (number base : Nat) : Bool :=
  let (count, odd) := splitTwos (bitLength number) (number - 1)
  let start := powMod base odd number
  start == 1 || reachesMinusOne number count start

def isLikelyPrime (number : Nat) : Bool :=
  Nat.gcd number smallProduct == 1 && testBases.all (passesFor number)

/-- The odd number of exactly `bits` bits, the two highest of them set, that a
tape holds at a position counted in such numbers. -/
def candidate (tape : Tape) (bits index : Nat) : Nat :=
  let size := (bits + 7) / 8
  let drawn := Bytes.toNat ((tape.drop (index * size)).take size)
  (drawn % Nat.pow 2 bits) ||| (3 <<< (bits - 2)) ||| 1

/-- The first of `attempts` candidates, from a position on, that passes for a
prime and leaves a remainder other than one modulo the exponent. -/
def findPrime (tape : Tape) (bits exponent : Nat) : Nat → Nat → Option Nat
  | 0, _ => none
  | attempts + 1, index =>
    let number := candidate tape bits index
    if number % exponent ≠ 1 ∧ isLikelyPrime number then some number
    else findPrime tape bits exponent attempts (index + 1)

end BoundKey.Rsa
