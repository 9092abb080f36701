import BoundKey.Rsa.Key
import BoundKey.Proofs.Bytes
import BoundKey.Proofs.Program
import BoundKey.Proofs.Rsa.Arithmetic
import Mathlib.NumberTheory.LucasLehmer

set_option autoImplicit false

/-!
Usable public keys, and sound private keys: two different primes and exponents
inverse to each other modulo the least common multiple of `p - 1` and `q - 1`.
On the numbers below the modulus of a sound key, the private and the public
operation undo each other in either order, so the check at the end of the
private operation never fails.
-/

namespace BoundKey.Rsa

namespace PublicKey

/-- A public key is usable if modulus and exponent are odd and the exponent,
which is not one, is below the modulus and within its limit. -/
theorem check_eq_ok_iff {key : PublicKey} :
    key.check = .ok () ↔ key.modulus % 2 = 1 ∧ key.exponent % 2 = 1 ∧
      2 ≤ key.exponent ∧ key.exponent < key.modulus ∧
      key.exponent ≤ maxExponent := by
  have limit : maxExponent < Nat.pow 2 64 := by decide
  unfold check
  constructor
  · intro passed
    split at passed
    · cases passed
    split at passed
    · cases passed
    split at passed
    · cases passed
    split at passed
    · cases passed
    split at passed
    · cases passed
    omega
  · rintro ⟨oddModulus, oddExponent, large, below, within⟩
    rw [if_neg (by omega), if_neg (by omega), if_neg (by omega),
      if_neg (by omega), if_neg (by omega)]

theorem pos_of_check {key : PublicKey} (usable : key.check = .ok ()) :
    key.modulus ≠ 0 ∧ key.exponent ≠ 0 := by
  obtain ⟨_, _, large, below, _⟩ := check_eq_ok_iff.1 usable
  omega

theorem ofParts_eq_ok_iff {modulus exponent : Nat} {key : PublicKey} :
    ofParts modulus exponent = .ok key ↔
      key = ⟨modulus, exponent⟩ ∧ bitLength modulus ≤ maxModulusBits ∧
        key.check = .ok () := by
  unfold ofParts
  dsimp only
  constructor
  · intro built
    split at built
    · cases built
    · next sized =>
        obtain ⟨_, passed, same⟩ := map_eq_ok_iff.1 built
        exact ⟨same.symm, Nat.le_of_not_lt sized, same ▸ passed⟩
  · rintro ⟨rfl, sized, passed⟩
    rw [if_neg (Nat.not_lt.2 sized), passed]
    rfl

end PublicKey

namespace PrivateKey

/-- Two different primes, and exponents inverse to each other. -/
structure IsSound (key : PrivateKey) : Prop where
  primeP : key.p.Prime
  primeQ : key.q.Prime
  distinct : key.p ≠ key.q
  inverse : key.publicExponent * key.privateExponent ≡ 1 [MOD
    Nat.lcm (key.p - 1) (key.q - 1)]

theorem publicKey_size (key : PrivateKey) : key.publicKey.size = key.size := rfl

theorem lt_pow_size {key : PrivateKey} {value : Nat}
    (small : value < key.modulus) : value < 256 ^ key.size :=
  Nat.lt_trans small (lt_pow_byteLength key.modulus)

/-- The private operation checks its result, so where there is one, the public
operation leads back, whatever the key. -/
theorem led_of_apply {key : PrivateKey} {value result : Nat}
    (applied : key.apply value = .ok result) :
    value < key.modulus ∧ result < key.modulus ∧
      key.publicKey.apply result = value := by
  rw [PrivateKey.apply] at applied
  split at applied
  · cases applied
  · next below =>
      have small := Nat.not_le.1 below
      dsimp only at applied
      split at applied
      · next led =>
          rw [Except.ok.inj applied] at led
          refine ⟨small, ?_, led⟩
          rw [← Except.ok.inj applied, powMod_eq]
          exact Nat.mod_lt _ (Nat.lt_of_le_of_lt (Nat.zero_le value) small)
      · cases applied

namespace IsSound

variable {key : PrivateKey}

theorem public_private (sound : key.IsSound) {value : Nat}
    (small : value < key.modulus) :
    key.publicKey.apply (powMod value key.privateExponent key.modulus) =
      value := by
  have power : value ^ (key.publicExponent * key.privateExponent) %
      key.modulus = value % key.modulus :=
    pow_modEq_self_of_primes sound.primeP sound.primeQ sound.distinct
      sound.inverse value
  change powMod (powMod value key.privateExponent key.modulus)
    key.publicExponent key.modulus = value
  rw [powMod_eq, powMod_eq, ← Nat.pow_mod, ← Nat.pow_mul,
    Nat.mul_comm key.privateExponent, power, Nat.mod_eq_of_lt small]

theorem private_public (sound : key.IsSound) {value : Nat}
    (small : value < key.modulus) :
    powMod (key.publicKey.apply value) key.privateExponent key.modulus =
      value := by
  have power : value ^ (key.publicExponent * key.privateExponent) %
      key.modulus = value % key.modulus :=
    pow_modEq_self_of_primes sound.primeP sound.primeQ sound.distinct
      sound.inverse value
  change powMod (powMod value key.publicExponent key.modulus)
    key.privateExponent key.modulus = value
  rw [powMod_eq, powMod_eq, ← Nat.pow_mod, ← Nat.pow_mul, power,
    Nat.mod_eq_of_lt small]

theorem apply_ok (sound : key.IsSound) {value : Nat}
    (small : value < key.modulus) :
    key.apply value = .ok (powMod value key.privateExponent key.modulus) := by
  rw [PrivateKey.apply, if_neg (Nat.not_le.2 small)]
  exact if_pos (sound.public_private small)

theorem modulus_pos (sound : key.IsSound) : 0 < key.modulus :=
  Nat.mul_pos sound.primeP.pos sound.primeQ.pos

theorem apply_eq_ok_iff (sound : key.IsSound) {value result : Nat} :
    key.apply value = .ok result ↔ value < key.modulus ∧ result < key.modulus ∧
      key.publicKey.apply result = value := by
  constructor
  · exact led_of_apply
  · rintro ⟨small, below, led⟩
    rw [sound.apply_ok small, ← led, sound.private_public below]

end IsSound

end PrivateKey

/-- A key of two Mersenne primes, with 2810 bits. -/
def mersenneKey : PrivateKey where
  p := mersenne 607
  q := mersenne 2203
  publicExponent := 65537
  privateExponent :=
    (30861 * ((mersenne 607 - 1) * (mersenne 2203 - 1)) + 1) / 65537

theorem mersenneKey_isSound : mersenneKey.IsSound where
  primeP := lucas_lehmer_sufficiency 607 (by decide) (by norm_num)
  primeQ := lucas_lehmer_sufficiency 2203 (by decide) (by norm_num)
  distinct := by decide +kernel
  inverse := by
    have product : mersenneKey.publicExponent * mersenneKey.privateExponent =
        (mersenneKey.p - 1) * (mersenneKey.q - 1) * 30861 + 1 := by
      decide +kernel
    have multiple : Nat.lcm (mersenneKey.p - 1) (mersenneKey.q - 1) ∣
        (mersenneKey.p - 1) * (mersenneKey.q - 1) * 30861 :=
      Dvd.dvd.mul_right (Nat.lcm_dvd_mul _ _) 30861
    rw [product]
    exact (Nat.modEq_zero_iff_dvd.2 multiple).add_right 1

end BoundKey.Rsa
