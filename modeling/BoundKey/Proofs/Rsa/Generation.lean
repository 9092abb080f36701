import BoundKey.Rsa.Generation
import BoundKey.Proofs.Rsa.Arithmetic
import Mathlib.Data.Nat.GCD.BigOperators
import Mathlib.Tactic.NormNum.Prime

set_option autoImplicit false

/-!
Fresh keys from the tape they are made of: a candidate that stands first and
passes is taken, and two of them make the key. A candidate is compared with all
small primes at once, through their product.
-/

namespace BoundKey.Rsa

/-- A number without divisors below 1000 has none in common with the product of
the small primes. -/
theorem coprime_smallProduct {number : Nat}
    (alone : ∀ divisor ∈ List.range 1000,
      2 ≤ divisor → Nat.Coprime number divisor) :
    Nat.Coprime number smallProduct := by
  rw [smallProduct, ← List.prod_eq_foldl, Nat.coprime_list_prod_right_iff]
  intro divisor member
  obtain ⟨below, undivided⟩ := List.mem_filter.1 member
  exact alone divisor below
    (of_decide_eq_true (Bool.and_eq_true_iff.1 undivided).1)

/-- A tape that holds the two largest primes of 1024 bits where a generation of
2048 bits looks first. -/
def primeTape : Tape where
  cell index := if index = 127 then 151 else if index = 4194431 then 77 else 255

theorem findPrime_of_first {tape : Tape} {bits exponent attempts number : Nat}
    (tried : 0 < attempts) (first : candidate tape bits 0 = number)
    (other : number % exponent ≠ 1)
    (alone : ∀ divisor ∈ List.range 1000,
      2 ≤ divisor → Nat.Coprime number divisor)
    (passes : testBases.all (passesFor number) = true) :
    findPrime tape bits exponent attempts 0 = some number := by
  have likely : isLikelyPrime number = true := by
    rw [isLikelyPrime, passes, Bool.and_true]
    exact beq_iff_eq.2 (coprime_smallProduct alone)
  cases attempts with
  | zero => exact absurd tried (Nat.lt_irrefl 0)
  | succ attempts =>
      rw [findPrime, first]
      exact if_pos ⟨other, likely⟩

theorem generate_of_findPrime {tape : Tape} {bits p q : Nat}
    (upper : findPrime tape ((bits + 1) / 2) PrivateKey.usualExponent
      (PrivateKey.attempts ((bits + 1) / 2)) 0 = some p)
    (lower :
      findPrime (tape.drop (PrivateKey.attempts ((bits + 1) / 2) *
        (((bits + 1) / 2 + 7) / 8))) (bits / 2)
      PrivateKey.usualExponent (PrivateKey.attempts (bits / 2)) 0 = some q) :
    PrivateKey.generate tape bits =
      PrivateKey.ofPrimes p q PrivateKey.usualExponent := by
  rw [PrivateKey.generate, upper, lower]

theorem generate_primeTape : PrivateKey.generate primeTape 2048 =
    PrivateKey.ofPrimes (2 ^ 1024 - 105) (2 ^ 1024 - 179)
      PrivateKey.usualExponent := by
  apply generate_of_findPrime
  · apply findPrime_of_first
    all_goals decide +kernel
  · apply findPrime_of_first
    all_goals decide +kernel

/-- A tape that holds, where a generation of 2048 bits looks first, two numbers
of 1024 bits whose predecessors are small primes times powers of two. -/
def certifiedTape : Tape where
  cell index := match index with
    | 0 => 0xf5
    | 1 => 0xb0
    | 127 => 1
    | 4194304 => 0xce
    | 4194305 => 0xd7
    | 4194431 => 1
    | _ => 0

theorem generate_certifiedTape : PrivateKey.generate certifiedTape 2048 =
    PrivateKey.ofPrimes (3931 * 2 ^ 1012 + 1) (52951 * 2 ^ 1008 + 1)
      PrivateKey.usualExponent := by
  apply generate_of_findPrime
  · apply findPrime_of_first
    all_goals decide +kernel
  · apply findPrime_of_first
    all_goals decide +kernel

theorem prime_certified : (3931 * 2 ^ 1012 + 1).Prime ∧
    (52951 * 2 ^ 1008 + 1).Prime := by
  have first : Nat.Prime 3931 := by norm_num
  have second : Nat.Prime 52951 := by norm_num
  have firstFactored : 3931 * 2 ^ 1012 + 1 - 1 = 3931 * 2 ^ (1011 + 1) := by
    decide +kernel
  have secondFactored : 52951 * 2 ^ 1008 + 1 - 1 = 52951 * 2 ^ (1007 + 1) := by
    decide +kernel
  constructor
  · refine prime_of_order first firstFactored (?_ : powMod 3 _ _ = 1) ?_ ?_ <;>
      decide +kernel
  · refine prime_of_order second secondFactored (?_ : powMod 3 _ _ = 1)
      ?_ ?_ <;> decide +kernel

end BoundKey.Rsa
