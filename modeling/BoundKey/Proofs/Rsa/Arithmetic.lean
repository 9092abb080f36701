import BoundKey.Rsa.Arithmetic
import Mathlib.Data.Nat.ModEq
import Mathlib.FieldTheory.Finite.Basic
import Mathlib.NumberTheory.LucasPrimality

set_option autoImplicit false

/-!
Powers modulo a number. Repeated squaring computes the power, and for an
exponent that is one modulo `p - 1` and `q - 1` the power is the number itself,
modulo the product of the two primes.
-/

namespace BoundKey.Rsa

theorem powMod_eq (base exponent modulus : Nat) :
    powMod base exponent modulus = base ^ exponent % modulus := by
  induction exponent using Nat.strongRecOn generalizing base with
  | ind exponent ih =>
      rw [powMod]
      by_cases zero : exponent = 0
      · rw [if_pos zero, zero, Nat.pow_zero]
      · rw [if_neg zero]
        have rest := ih (exponent / 2) (by omega) (base * base % modulus)
        have halved : base ^ exponent =
            base ^ (exponent % 2) * (base * base) ^ (exponent / 2) := by
          rw [← Nat.pow_two, ← Nat.pow_mul, ← Nat.pow_add, Nat.mod_add_div]
        dsimp only
        rw [rest, ← Nat.pow_mod, halved]
        by_cases odd : exponent % 2 = 1
        · rw [if_pos odd, odd, Nat.pow_one, Nat.mul_mod_mod]
        · have even : exponent % 2 = 0 := by omega
          rw [if_neg odd, even, Nat.pow_zero, Nat.one_mul]

/-- Modulo a prime, a positive exponent that is one modulo `p - 1` changes
nothing. -/
theorem pow_modEq_self {p exponent : Nat} (prime : p.Prime)
    (positive : exponent ≠ 0) (one : exponent ≡ 1 [MOD p - 1]) (base : Nat) :
    base ^ exponent ≡ base [MOD p] := by
  by_cases divides : p ∣ base
  · have zero : base ≡ 0 [MOD p] := Nat.modEq_zero_iff_dvd.2 divides
    have power := zero.pow exponent
    rw [Nat.zero_pow (Nat.pos_of_ne_zero positive)] at power
    exact power.trans zero.symm
  · have coprime : base.Coprime p :=
      ((Nat.Prime.coprime_iff_not_dvd prime).2 divides).symm
    have fermat : base ^ (p - 1) ≡ 1 [MOD p] := by
      rw [← Nat.totient_prime prime]
      exact Nat.ModEq.pow_totient coprime
    obtain ⟨factor, same⟩ :=
      (Nat.modEq_iff_dvd' (Nat.pos_of_ne_zero positive)).1 one.symm
    have split : exponent = (p - 1) * factor + 1 := by omega
    calc base ^ exponent = (base ^ (p - 1)) ^ factor * base := by rw [split,
      Nat.pow_succ, Nat.pow_mul]
      _ ≡ 1 ^ factor * base [MOD p] := (fermat.pow factor).mul_right base
      _ = base := by rw [Nat.one_pow, Nat.one_mul]

/-- Modulo a product of two primes, an exponent that is one modulo both `p - 1`
and `q - 1` changes nothing. -/
theorem pow_modEq_self_of_primes {p q exponent : Nat} (primeP : p.Prime)
    (primeQ : q.Prime) (distinct : p ≠ q)
    (one : exponent ≡ 1 [MOD Nat.lcm (p - 1) (q - 1)]) (base : Nat) :
    base ^ exponent ≡ base [MOD p * q] := by
  have oneP : exponent ≡ 1 [MOD p - 1] :=
    one.of_dvd (Nat.dvd_lcm_left (p - 1) (q - 1))
  have oneQ : exponent ≡ 1 [MOD q - 1] :=
    one.of_dvd (Nat.dvd_lcm_right (p - 1) (q - 1))
  have positive : exponent ≠ 0 := by
    intro zero
    rw [zero] at oneP oneQ
    have dividesP := (Nat.modEq_iff_dvd' (Nat.zero_le 1)).1 oneP
    have dividesQ := (Nat.modEq_iff_dvd' (Nat.zero_le 1)).1 oneQ
    have smallP := Nat.le_of_dvd Nat.one_pos dividesP
    have smallQ := Nat.le_of_dvd Nat.one_pos dividesQ
    have lowerP := primeP.two_le
    have lowerQ := primeQ.two_le
    omega
  have coprime : p.Coprime q := (Nat.coprime_primes primeP primeQ).2 distinct
  exact (Nat.modEq_and_modEq_iff_modEq_mul coprime).1
    ⟨pow_modEq_self primeP positive oneP base,
      pow_modEq_self primeQ positive oneQ base⟩

/-- A number is prime if its predecessor is a prime times a power of two and
some base has it as its order. -/
theorem prime_of_order {base factor twos number : Nat}
    (primeFactor : factor.Prime)
    (factored : number - 1 = factor * 2 ^ (twos + 1))
    (whole : powMod base (number - 1) number = 1)
    (half : powMod base (factor * 2 ^ twos) number ≠ 1)
    (part : powMod base (2 ^ (twos + 1)) number ≠ 1) :
    number.Prime := by
  have positive : 0 < number - 1 :=
    factored ▸ Nat.mul_pos primeFactor.pos (Nat.two_pow_pos _)
  have one_iff (exponent : Nat) : (base : ZMod number) ^ exponent = 1 ↔
      powMod base exponent number = 1 := by
    have small : 1 % number = 1 := Nat.mod_eq_of_lt (by omega)
    have read := ZMod.natCast_eq_natCast_iff' (base ^ exponent) 1 number
    rw [small, Nat.cast_pow, Nat.cast_one] at read
    rw [powMod_eq, read]
  apply lucas_primality number (base : ZMod number) ((one_iff _).2 whole)
  intro divisor primeDivisor divides
  rw [Ne, one_iff, factored]
  rw [factored] at divides
  obtain inFactor | inTwos := (Nat.Prime.dvd_mul primeDivisor).1 divides
  · have same : divisor = factor :=
      (Nat.prime_dvd_prime_iff_eq primeDivisor primeFactor).1 inFactor
    rw [same, Nat.mul_div_cancel_left _ primeFactor.pos]
    exact part
  · have two : divisor = 2 :=
      (Nat.prime_dvd_prime_iff_eq primeDivisor Nat.prime_two).1
        (primeDivisor.dvd_of_dvd_pow inTwos)
    rw [two, Nat.pow_succ, ← Nat.mul_assoc, Nat.mul_div_cancel _ Nat.two_pos]
    exact half

end BoundKey.Rsa
