import BoundKey.Rsa.Key
import BoundKey.Rsa.Prime

set_option autoImplicit false

/-!
Fresh RSA keys. The two primes have half of the wanted bits each, and their two
highest bits are set, so that the modulus has exactly as many bits as wanted.
-/

namespace BoundKey.Rsa.PrivateKey

def usualExponent : Nat := 65537

/-- How many candidates are drawn for a prime before the search is given up. -/
def attempts (bits : Nat) : Nat :=
  32 * bits

def generate (tape : Tape) (bits : Nat) : Except Fault PrivateKey :=
  let upper := (bits + 1) / 2
  let lower := bits / 2
  let used := attempts upper * ((upper + 7) / 8)
  match findPrime tape upper usualExponent (attempts upper) 0,
      findPrime (tape.drop used) lower usualExponent (attempts lower) 0 with
  | some p, some q => ofPrimes p q usualExponent
  | _, _ => .error .invalidPrime

end BoundKey.Rsa.PrivateKey
