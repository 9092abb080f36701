import BoundKey.Domain.Bidirectional
import BoundKey.Domain.Punycode
import BoundKey.Domain.Repertoire
import BoundKey.Unicode.Composition
import BoundKey.Unicode.Joining
import BoundKey.Unicode.Mark

set_option autoImplicit false

/-!
Domain names as ASCII text. Characters are replaced by those they stand for and
composed; labels that are written in ASCII with a mark in front must say
something that they could not say otherwise; every label is checked, and those
with other characters are written in ASCII.
-/

namespace BoundKey.Domain

open Unicode

def replaceAll? : List Nat → Option (List Nat)
  | [] => some []
  | code :: rest => do
    let others ← replaceAll? rest
    match Repertoire.fate code with
    | .kept => some (code :: others)
    | .dropped => some others
    | .replaced codes => some (codes ++ others)
    | .refused => none

def stop : Nat := 46

def mark : List Nat :=
  "xn--".toList.map Char.toNat

/-- The label that a label stands for: one with the mark is read, and must hold
characters beyond ASCII, in composed form. -/
def reading? (label : List Nat) : Option (List Nat) :=
  if mark.isPrefixOf label then do
    let decoded ← Punycode.decode (label.drop mark.length)
    if decoded.any (128 ≤ ·) ∧ Composition.compose decoded = decoded then
      some decoded else none
  else some label

/-! ### Joiners -/

def separator : Nat := 0x200c

def joiner : Nat := 0x200d

def nearest (codes : List Nat) : Joining :=
  ((codes.map Joining.of).dropWhile (· == .transparent)).headD .none

/-- Whether joiners and separators stand only where they change the writing;
`before` is what precedes, the last character first. Both may follow a sign that
silences a vowel, and a separator may stand between two characters that would
join. -/
def joinersAllowed (before : List Nat) : List Nat → Bool
  | [] => true
  | code :: rest =>
    let afterVirama := match before with
      | last :: _ => CombiningClass.of last == CombiningClass.virama
      | [] => false
    let between :=
      (nearest before == .left || nearest before == .both)
        && (nearest rest == .right || nearest rest == .both)
    let allowed :=
      if code = joiner then afterVirama
      else if code = separator then afterVirama || between
      else true
    allowed && joinersAllowed (code :: before) rest

/-! ### Labels -/

def beginsWithMark (label : List Nat) : Bool :=
  match label with
  | first :: _ => Mark.isMark first
  | [] => false

def isValid (label : List Nat) : Bool :=
  !beginsWithMark label && label.all Repertoire.isKept && joinersAllowed [] label

def labelText (label : List Nat) : List Char :=
  if label.any (128 ≤ ·) then mark.map Char.ofNat ++ Punycode.encode label
  else label.map Char.ofNat

def isDenied (char : Char) : Bool :=
  char.toNat ≤ 0x20 || char.toNat == 0x7f || "#%/:<>?@[\\]^|".toList.contains char

def ofText? (text : List Char) : Option (List Char) := do
  let codes ← replaceAll? (text.map Char.toNat)
  let read ← (Text.pieces stop (Composition.compose codes)).mapM reading?
  let isBidirectional := read.any (·.any isRightward)
  if read.all isValid ∧ (isBidirectional → read.all keepsDirection) then
    let result := Text.joined '.' (read.map labelText)
    if result.any isDenied then none else some result
  else none

end BoundKey.Domain
