import BoundKey.Bytes
import BoundKey.Rsa.Arithmetic

set_option autoImplicit false

/-!
RSA keys. A public key is a modulus and an exponent, possibly unchecked;
`PublicKey.check` states what a usable one satisfies and which fault is named
first. A private key is two primes and a pair of exponents inverse to each
other; `PrivateKey.ofPrimes` builds one.
-/

namespace BoundKey.Rsa

inductive Fault where
  | invalidPrime
  | invalidModulus
  | invalidExponent
  | modulusTooLarge
  | exponentTooSmall
  | exponentTooLarge
  | messageTooLong
  | notDecryptable
  | inconsistent
  deriving DecidableEq, Repr

namespace Fault

def message : Fault → String
  | invalidPrime => "invalid prime value"
  | invalidModulus => "invalid modulus"
  | invalidExponent => "invalid exponent"
  | modulusTooLarge => "modulus too large"
  | exponentTooSmall => "public exponent too small"
  | exponentTooLarge => "public exponent too large"
  | messageTooLong => "message too long"
  | notDecryptable => "decryption error"
  | inconsistent => "internal error"

def concernsKey : Fault → Bool
  | messageTooLong | notDecryptable | inconsistent => false
  | _ => true

end Fault

def maxExponent : Nat := Nat.pow 2 33 - 1

/-- The largest modulus, in bits, of a public key that is read from outside. -/
def maxModulusBits : Nat := 4096

structure PublicKey where
  modulus : Nat
  exponent : Nat
  deriving DecidableEq, Repr

namespace PublicKey

def size (key : PublicKey) : Nat :=
  byteLength key.modulus

/-- Names the first fault of a public key, if it has one: an exponent of more
than 64 bits; an exponent not below the modulus, or an even modulus; an even
exponent; an exponent below two; an exponent above the largest one. -/
def check (key : PublicKey) : Except Fault Unit :=
  if Nat.pow 2 64 ≤ key.exponent then .error .exponentTooLarge
  else if key.modulus ≤ key.exponent ∨ key.modulus % 2 = 0 then
    .error .invalidModulus
  else if key.exponent % 2 = 0 then .error .invalidExponent
  else if key.exponent < 2 then .error .exponentTooSmall
  else if maxExponent < key.exponent then .error .exponentTooLarge
  else .ok ()

def ofParts (modulus exponent : Nat) : Except Fault PublicKey :=
  let key : PublicKey := ⟨modulus, exponent⟩
  if maxModulusBits < bitLength modulus then .error .modulusTooLarge
  else key.check.map fun _ => key

def apply (key : PublicKey) (value : Nat) : Nat :=
  powMod value key.exponent key.modulus

end PublicKey

structure PrivateKey where
  p : Nat
  q : Nat
  publicExponent : Nat
  privateExponent : Nat
  deriving DecidableEq, Repr

namespace PrivateKey

def modulus (key : PrivateKey) : Nat :=
  key.p * key.q

def publicKey (key : PrivateKey) : PublicKey :=
  ⟨key.modulus, key.publicExponent⟩

def size (key : PrivateKey) : Nat :=
  key.publicKey.size

/-- The private key of two different primes and a public exponent. The private
exponent is the inverse of the public one modulo the least common multiple of `p
- 1` and `q - 1`. -/
def ofPrimes (p q exponent : Nat) : Except Fault PrivateKey :=
  if p = q then .error .invalidPrime
  else
    match inverse? exponent (Nat.lcm (p - 1) (q - 1)) with
    | none => .error .invalidPrime
    | some inverse =>
      let key : PrivateKey := ⟨p, q, exponent, inverse⟩
      match key.publicKey.check with
      | .error fault => .error fault
      | .ok () =>
        let product := inverse * exponent
        if product % (p - 1) = 1 ∧ product % (q - 1) = 1 then .ok key
        else .error .invalidExponent

/-- The private operation: raises a value below the modulus to the private
exponent, and checks that the public operation leads back. -/
def apply (key : PrivateKey) (value : Nat) : Except Fault Nat :=
  if key.modulus ≤ value then .error .notDecryptable
  else
    let result := powMod value key.privateExponent key.modulus
    if key.publicKey.apply result = value then .ok result
    else .error .inconsistent

end PrivateKey

end BoundKey.Rsa
