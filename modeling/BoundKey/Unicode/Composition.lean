import BoundKey.Unicode.CombiningClass
import BoundKey.Unicode.Decomposition

set_option autoImplicit false

/-!
The composed normal form of a text. Every character is taken apart, marks are
brought into the order of their classes, and what can be put together again is
put together. Korean syllables follow from arithmetic.
-/

namespace BoundKey.Unicode.Composition

/-! ### Korean syllables -/

def firstSyllable : Nat := 0xac00

def syllableCount : Nat := 11172

def firstLead : Nat := 0x1100

def firstVowel : Nat := 0x1161

def beforeTrail : Nat := 0x11a7

def syllableParts? (code : Nat) : Option (List Nat) :=
  if firstSyllable ≤ code ∧ code < firstSyllable + syllableCount then
    let index := code - firstSyllable
    let base := [firstLead + index / 588, firstVowel + index % 588 / 28]
    some (if index % 28 = 0 then base else base ++ [beforeTrail + index % 28])
  else none

def syllable? (left right : Nat) : Option Nat :=
  if firstLead ≤ left ∧ left < firstLead + 19 ∧ firstVowel ≤ right ∧
    right < firstVowel + 21 then
    some (firstSyllable + ((left - firstLead) * 21 + (right - firstVowel)) * 28)
  else if firstSyllable ≤ left ∧ left < firstSyllable + syllableCount ∧
    (left - firstSyllable) % 28 = 0
      ∧ beforeTrail < right ∧ right < beforeTrail + 28 then
    some (left + (right - beforeTrail))
  else none

/-! ### Taking apart -/

/-- How often a decomposition can begin with a character that has one itself. -/
def maxNesting : Nat := 8

def expand : Nat → Nat → List Nat
  | 0, code => [code]
  | nesting + 1, code =>
    match syllableParts? code with
    | some parts => parts
    | none =>
      match Decomposition.parts? code with
      | some parts => parts.flatMap (expand nesting)
      | none => [code]

/-- Puts a character before a text whose marks are in order, behind the marks
that go before it. -/
def settle (code : Nat) : List Nat → List Nat
  | [] => [code]
  | next :: rest =>
    let own := CombiningClass.of code
    let other := CombiningClass.of next
    if 0 < other ∧ other < own then next :: settle code rest
    else code :: next :: rest

def reorder (codes : List Nat) : List Nat :=
  codes.foldr settle []

def decompose (codes : List Nat) : List Nat :=
  reorder (codes.flatMap (expand maxNesting))

/-! ### Putting together -/

def pair? (left right : Nat) : Option Nat :=
  (syllable? left right).orElse fun _ => Decomposition.composed? left right

/-- A text of which a beginning has been composed. -/
structure Partly where
  /-- What is finished, the last character first. -/
  done : List Nat
  base : Option Nat
  /-- The marks behind the base, the last one first. -/
  marks : List Nat

def Partly.codes (partly : Partly) : List Nat :=
  partly.done.reverse ++ partly.base.toList ++ partly.marks.reverse

/-- Whether a character can reach the base: no mark between them has the class
of the character or a later one. -/
def Partly.reaches (partly : Partly) (code : Nat) : Bool :=
  match partly.marks with
  | [] => true
  | mark :: _ => CombiningClass.of mark < CombiningClass.of code

def Partly.add (partly : Partly) (code : Nat) : Partly :=
  let joined :=
    if partly.reaches code then partly.base.bind (pair? · code) else none
  match joined with
  | some together => { partly with base := some together }
  | none =>
    if CombiningClass.of code = 0 then ⟨partly.codes.reverse, some code, []⟩
    else { partly with marks := code :: partly.marks }

def compose (codes : List Nat) : List Nat :=
  ((decompose codes).foldl Partly.add ⟨[], none, []⟩).codes

end BoundKey.Unicode.Composition
