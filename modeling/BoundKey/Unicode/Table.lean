import BoundKey.Text.Decimal
import BoundKey.Text.Hex
import BoundKey.Text.Pieces

set_option autoImplicit false

/-!
Tables of code points as text. A table is a list of lines, a line a list of
tokens with blanks between them. A token names a code point or a run of them in
hexadecimal, with a stroke before the distance when not every code point of the
run is meant, and then, behind an equals sign, what the table says of them.
-/

namespace BoundKey.Unicode

def hexValue (digits : List Char) : Nat :=
  digits.foldl (fun number digit => number * 16 + (Hex.value? digit).getD 0) 0

def tokens (lines : List String) : List (List Char) :=
  lines.flatMap fun line => Text.pieces ' ' line.toList

/-- Code points at one distance from another, and what a table says of them. -/
structure Run where
  first : Nat
  last : Nat
  distance : Nat
  content : List Char
  deriving Repr

namespace Run

def read (token : List Char) : Run :=
  let whole := token.takeWhile (· ≠ '=')
  let content := (token.dropWhile (· ≠ '=')).drop 1
  let bounds := whole.takeWhile (· ≠ '/')
  let distance := (whole.dropWhile (· ≠ '/')).drop 1
  let first := hexValue (bounds.takeWhile (· ≠ '-'))
  let last := (bounds.dropWhile (· ≠ '-')).drop 1
  ⟨first, if last.isEmpty then first else hexValue last,
    if distance.isEmpty then 1 else hexValue distance,
    content⟩

def readLines (lines : List String) : List Run :=
  (tokens lines).map read

def contains (run : Run) (code : Nat) : Bool :=
  run.first ≤ code && code ≤ run.last && (code - run.first) % run.distance == 0

end Run

end BoundKey.Unicode
