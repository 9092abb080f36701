import BoundKey.Proofs.Rsa.Generation
import BoundKey.Proofs.Rsa.Key

set_option autoImplicit false

/-!
What is known of a fresh key. The generation tests its candidates, but no test
of this kind proves them prime; if they are, the key is sound. The rest does not
depend on it: the public exponent is the usual one, the public key is usable,
and since each candidate has its two highest bits set, the modulus has exactly
as many bits as were asked for.
-/

namespace BoundKey

namespace Rsa

/-! ### Candidates -/

theorem candidate_bounds (tape : Tape) (bits index : Nat) :
    3 * 2 ^ bits ≤ candidate tape (bits + 2) index ∧
      candidate tape (bits + 2) index < 2 ^ (bits + 2) := by
  have top : 3 <<< bits = 3 * 2 ^ bits := Nat.shiftLeft_eq 3 bits
  have wide : 2 ^ (bits + 2) = 4 * 2 ^ bits := by
    rw [Nat.pow_add, Nat.mul_comm]
  have positive := Nat.two_pow_pos bits
  rw [candidate]
  constructor
  · rw [Nat.add_sub_cancel, top]
    exact Nat.le_trans Nat.right_le_or Nat.left_le_or
  · apply Nat.or_lt_two_pow
    · apply Nat.or_lt_two_pow
      · exact Nat.mod_lt _ (Nat.two_pow_pos _)
      · rw [Nat.add_sub_cancel, top]
        omega
    · omega

theorem candidate_of_findPrime {tape : Tape}
    {bits exponent attempts start number : Nat}
    (found : findPrime tape bits exponent attempts start = some number) :
    ∃ index, candidate tape bits index = number := by
  induction attempts generalizing start with
  | zero => cases found
  | succ attempts ih =>
      rw [findPrime] at found
      split at found
      · exact ⟨start, Option.some.inj found⟩
      · exact ih found

theorem bitLength_mul {p q upper lower : Nat} (lowP : 3 * 2 ^ upper ≤ p)
    (highP : p < 2 ^ (upper + 2))
    (lowQ : 3 * 2 ^ lower ≤ q) (highQ : q < 2 ^ (lower + 2)) :
    bitLength (p * q) = upper + lower + 4 := by
  change bitLength (p * q) = upper + lower + 3 + 1
  apply bitLength_eq
  · calc 2 ^ (upper + lower + 3) =
        8 * (2 ^ upper * 2 ^ lower) := by
          rw [Nat.pow_add, Nat.pow_add, Nat.mul_comm]
      _ ≤ 9 * (2 ^ upper * 2 ^ lower) := Nat.mul_le_mul_right _ (by decide)
      _ = 3 * 2 ^ upper * (3 * 2 ^ lower) := by ring
      _ ≤ p * q := Nat.mul_le_mul lowP lowQ
  · calc p * q < 2 ^ (upper + 2) * 2 ^ (lower + 2) := Nat.mul_lt_mul'' highP highQ
      _ = 2 ^ (upper + lower + 3 + 1) := by ring

namespace PrivateKey

/-! ### Keys of two numbers -/

/-- A key of two numbers has these and the given exponent, is usable, and its
exponents are inverse to each other modulo the predecessor of either number. -/
theorem ofPrimes_eq_ok {p q exponent : Nat} {key : PrivateKey}
    (built : ofPrimes p q exponent = .ok key) :
    key.p = p ∧ key.q = q ∧ key.publicExponent = exponent ∧ p ≠ q ∧
      key.publicKey.check = .ok () ∧
      key.privateExponent * exponent % (p - 1) = 1 ∧
      key.privateExponent * exponent % (q - 1) = 1 := by
  rw [ofPrimes] at built
  split at built
  · cases built
  · next distinct =>
      split at built
      · cases built
      · dsimp only at built
        split at built
        · cases built
        · next passed =>
            split at built
            · next inverse =>
                cases built
                exact ⟨rfl, rfl, rfl, distinct, passed, inverse⟩
            · cases built

theorem modEq_one_lcm {p q product : Nat} (first : product % p = 1)
    (second : product % q = 1) : product ≡ 1 [MOD Nat.lcm p q] := by
  have positive : 1 ≤ product := by
    by_contra zero
    rw [Nat.lt_one_iff.1 (Nat.lt_of_not_le zero), Nat.zero_mod] at first
    cases first
  have behind {modulus : Nat} (one : product % modulus = 1) :
      modulus ∣ product - 1 :=
    one ▸ Nat.dvd_sub_mod product
  exact ((Nat.modEq_iff_dvd' positive).2
    (Nat.lcm_dvd (behind first) (behind second))).symm

/-- A sound and usable key with the usual exponent, whose modulus has the given
number of bits. -/
structure IsFresh (key : PrivateKey) (bits : Nat) : Prop where
  sound : key.IsSound
  usable : key.publicKey.check = .ok ()
  exponent : key.publicExponent = usualExponent
  sized : bitLength key.modulus = bits

theorem IsFresh.size_eq {key : PrivateKey} {bits : Nat}
    (fresh : key.IsFresh bits) : key.size = (bits + 7) / 8 := by
  change (bitLength key.modulus + 7) / 8 = _
  rw [fresh.sized]

theorem ofPrimes_of_generate {tape : Tape} {bits : Nat} {key : PrivateKey}
    (enough : 4 ≤ bits) (generated : generate tape bits = .ok key) :
    ∃ p q upper lower, ofPrimes p q usualExponent = .ok key ∧
      upper + lower + 4 = bits ∧
      (3 * 2 ^ upper ≤ p ∧ p < 2 ^ (upper + 2)) ∧ 3 * 2 ^ lower ≤ q ∧
        q < 2 ^ (lower + 2) := by
  rw [generate] at generated
  split at generated
  · next p q foundP foundQ =>
      obtain ⟨upper, upperBits⟩ :=
        Nat.exists_eq_add_of_le' (show 2 ≤ (bits + 1) / 2 by omega)
      obtain ⟨lower, lowerBits⟩ :=
        Nat.exists_eq_add_of_le' (show 2 ≤ bits / 2 by omega)
      rw [upperBits] at foundP
      rw [lowerBits] at foundQ
      obtain ⟨indexP, candidateP⟩ := candidate_of_findPrime foundP
      obtain ⟨indexQ, candidateQ⟩ := candidate_of_findPrime foundQ
      exact ⟨p, q, upper, lower, generated, by omega,
        candidateP ▸ candidate_bounds _ upper indexP,
        candidateQ ▸ candidate_bounds _ lower indexQ⟩
  · cases generated

/-- The modulus of a generated key has as many bits as were asked for, whether
or not its numbers are prime. -/
theorem bitLength_of_generate {tape : Tape} {bits : Nat} {key : PrivateKey}
    (enough : 4 ≤ bits) (generated : generate tape bits = .ok key) :
    bitLength key.modulus = bits := by
  obtain ⟨p, q, upper, lower, built, halves, ⟨lowP, highP⟩, lowQ, highQ⟩ :=
    ofPrimes_of_generate enough generated
  obtain ⟨sameP, sameQ, _⟩ := ofPrimes_eq_ok built
  rw [modulus, sameP, sameQ, bitLength_mul lowP highP lowQ highQ, halves]

theorem usable_of_generate {tape : Tape} {bits : Nat} {key : PrivateKey}
    (enough : 4 ≤ bits) (generated : generate tape bits = .ok key) :
    key.p ≠ key.q ∧ key.publicKey.check = .ok () ∧
      key.publicExponent = usualExponent ∧
      key.publicExponent * key.privateExponent ≡ 1 [MOD
        Nat.lcm (key.p - 1) (key.q - 1)] := by
  obtain ⟨p, q, _, _, built, _⟩ := ofPrimes_of_generate enough generated
  obtain ⟨sameP, sameQ, exponent, distinct, usable, inverseP, inverseQ⟩ :=
    ofPrimes_eq_ok built
  rw [sameP, sameQ, exponent, Nat.mul_comm]
  exact ⟨distinct, usable, rfl, modEq_one_lcm inverseP inverseQ⟩

/-- A generated key is fresh, if the numbers found for it are prime. -/
theorem isFresh_of_generate {tape : Tape} {bits : Nat} {key : PrivateKey}
    (enough : 4 ≤ bits) (generated : generate tape bits = .ok key)
    (primeP : key.p.Prime) (primeQ : key.q.Prime) : key.IsFresh bits := by
  obtain ⟨distinct, usable, exponent, inverse⟩ :=
    usable_of_generate enough generated
  exact ⟨⟨primeP, primeQ, distinct, inverse⟩, usable, exponent,
    bitLength_of_generate enough generated⟩

end PrivateKey

end Rsa

end BoundKey
