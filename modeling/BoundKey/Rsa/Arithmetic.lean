set_option autoImplicit false

/-!
Arithmetic modulo a number: powers by repeated squaring, and inverses by the
extended algorithm of Euclid.
-/

namespace BoundKey.Rsa

def powMod (base exponent modulus : Nat) : Nat :=
  if exponent = 0 then 1 % modulus
  else
    let rest := powMod (base * base % modulus) (exponent / 2) modulus
    if exponent % 2 = 1 then base * rest % modulus else rest
termination_by exponent

/-- Factors `x` and `y` for which `a * x + b * y` is the greatest common divisor
of `a` and `b`. -/
def bezout (a b : Nat) : Int × Int :=
  if _stop : a = 0 then (0, 1)
  else
    let inner := bezout (b % a) a
    (inner.2 - (b / a : Nat) * inner.1, inner.1)
termination_by a
decreasing_by exact Nat.mod_lt b (Nat.pos_of_ne_zero _stop)

def inverse? (value modulus : Nat) : Option Nat :=
  if Nat.gcd value modulus = 1 then
    some ((bezout value modulus).1 % (modulus : Int)).toNat else none

end BoundKey.Rsa
