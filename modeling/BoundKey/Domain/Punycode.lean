set_option autoImplicit false

/-!
Labels of domain names in ASCII. The ASCII characters of a label come first;
then the others follow as numbers that say how many places and code points lie
between one insertion and the next. The digits of the numbers adapt to their
size.
-/

namespace BoundKey.Domain.Punycode

def digit (value : Nat) : Char :=
  if value < 26 then Char.ofNat (97 + value) else Char.ofNat (22 + value)

def value? (code : Nat) : Option Nat :=
  if 97 ≤ code ∧ code ≤ 122 then some (code - 97)
  else if 65 ≤ code ∧ code ≤ 90 then some (code - 65)
  else if 48 ≤ code ∧ code ≤ 57 then some (code - 22)
  else none

def threshold (place bias : Nat) : Nat :=
  if place ≤ bias then 1 else if bias + 26 ≤ place then 26 else place - bias

theorem threshold_pos (place bias : Nat) : 1 ≤ threshold place bias := by
  unfold threshold
  split
  · omega
  · split <;> omega

/-- How often a number is divided until it is small, times 36, and what is left
of it. -/
def shrink (steps number : Nat) : Nat × Nat :=
  if 455 < number then shrink (steps + 36) (number / 35) else (steps, number)
termination_by number
decreasing_by exact Nat.div_lt_self (by omega) (by omega)

def adapt (number count : Nat) (isFirst : Bool) : Nat :=
  let damped := if isFirst then number / 700 else number / 2
  let (steps, left) := shrink 0 (damped + damped / count)
  steps + 36 * left / (left + 38)

/-! ### Writing -/

def numberDigits (bias place number : Nat) : List Char :=
  let least := threshold place bias
  if number < least then [digit number]
  else
    digit (least + (number - least) % (36 - least))
      :: numberDigits bias (place + 36) ((number - least) / (36 - least))
termination_by number
decreasing_by
  have positive := threshold_pos place bias
  exact Nat.lt_of_le_of_lt (Nat.div_le_self _ _) (by omega)

structure Writer where
  text : List Char
  gap : Nat
  bias : Nat
  placed : Nat
  basic : Nat

def Writer.see (current : Nat) (writer : Writer) (code : Nat) : Writer :=
  if code < current then { writer with gap := writer.gap + 1 }
  else if code = current then
    { writer with
      text := writer.text ++ numberDigits writer.bias 36 writer.gap
      gap := 0
      bias := adapt writer.gap (writer.placed + 1) (writer.placed == writer.basic)
      placed := writer.placed + 1 }
  else writer

/-- Places the characters with each of some codes, which are in order; `next` is
the code after the last one that was placed. -/
def Writer.place (label : List Nat) : List Nat → Nat → Writer → Writer
  | [], _, writer => writer
  | code :: rest, next, writer =>
    let reached :=
      { writer with gap := writer.gap + (code - next) * (writer.placed + 1) }
    let seen := label.foldl (see code) reached
    place label rest (code + 1) { seen with gap := seen.gap + 1 }

def foreignCodes (label : List Nat) : List Nat :=
  ((label.filter (128 ≤ ·)).mergeSort (· ≤ ·)).eraseDups

def encode (label : List Nat) : List Char :=
  let basic := label.filter (· < 128)
  let start := basic.map Char.ofNat ++ (if basic.isEmpty then [] else ['-'])
  (Writer.place label (foreignCodes label) 128
    ⟨start, 0, 72, basic.length, basic.length⟩).text

/-! ### Reading -/

def readNumber (bias : Nat) : Nat → Nat → Nat → List Nat → Option (Nat × List Nat)
  | _, _, _, [] => none
  | place, weight, sum, code :: rest =>
    match value? code with
    | none => none
    | some value =>
      let least := threshold place bias
      if value < least then some (sum + value * weight, rest)
      else readNumber bias (place + 36) (weight * (36 - least))
        (sum + value * weight) rest

theorem readNumber_length {bias place weight sum number : Nat}
    {digits rest : List Nat}
    (found : readNumber bias place weight sum digits = some (number, rest)) :
    rest.length < digits.length := by
  induction digits generalizing place weight sum with
  | nil => simp [readNumber] at found
  | cons code tail step =>
    unfold readNumber at found
    split at found
    · simp at found
    · simp only at found
      split at found
      · simp only [Option.some.injEq, Prod.mk.injEq] at found
        rw [← found.2]
        simp
      · have shorter := step found
        simp only [List.length_cons]
        omega

def isCode (number : Nat) : Bool :=
  number < 0xd800 || (0xe000 ≤ number && number < 0x110000)

/-- The label that is written by inserting characters into `label`: `next` is
the least code that may still be inserted, `position` the place of the next
insertion. -/
def insertAll (next position bias : Nat) (label : List Nat)
    (digits : List Nat) : Option (List Nat) :=
  match digits with
  | [] => some label
  | first :: tail =>
    match _found : readNumber bias 36 1 position (first :: tail) with
    | none => none
    | some (reached, rest) =>
      let count := label.length + 1
      let code := next + reached / count
      let place := reached % count
      if isCode code then
        insertAll code (place + 1)
          (adapt (reached - position) count (position == 0))
          (label.take place ++ code :: label.drop place) rest
      else none
termination_by digits.length
decreasing_by exact readNumber_length _found

def decode (text : List Nat) : Option (List Nat) :=
  let reversed := text.reverse
  let digits := (reversed.takeWhile (· ≠ 45)).reverse
  let basic := ((reversed.dropWhile (· ≠ 45)).drop 1).reverse
  if basic.isEmpty ∧ digits.length < text.length then none
  else if basic.all (· < 128) then insertAll 128 0 72 basic digits
  else none

end BoundKey.Domain.Punycode
