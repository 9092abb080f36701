import BoundKey.Text.Pieces
import BoundKey.Url.Encoding

set_option autoImplicit false

/-!
The path of a URL as segments, a stroke before each. A segment of one dot is
left out and one of two dots removes the segment before it, unless that is the
letter of a drive.
-/

namespace BoundKey.Url

def isDot (segment : List Char) : Bool :=
  [".", "%2e"].contains (String.ofList (segment.map Char.toLower))

def isDoubleDot (segment : List Char) : Bool :=
  ["..", "%2e%2e", "%2e.", ".%2e"].contains
    (String.ofList (segment.map Char.toLower))

def isDrive : List Char → Bool
  | [letter, sign] => letter.isAlpha && (sign == ':' || sign == '|')
  | _ => false

structure Path where
  segments : List (List Char)
  /-- Whether the first segment of a file's path was the letter of a drive. -/
  hasDrive : Bool
  deriving DecidableEq, Repr

namespace Path

/-- The path without its last segment; the letter of a drive stays. -/
def up (path : Path) : Path :=
  match path.segments.getLast? with
  | some last =>
    if isDrive last then path
    else { path with segments := path.segments.dropLast }
  | none => path

/-- Adds a segment. In front of a file's path the letter of a drive is written
with a colon. -/
def push (isFile : Bool) (path : Path) (segment : List Char) : Path :=
  match path.segments, segment with
  | [], letter :: _ =>
    if isFile ∧ isDrive segment then ⟨[[letter, ':']], true⟩
    else { path with segments := [segment] }
  | before, _ => { path with segments := before ++ [segment] }

/-- Reads the segments one after another; the last one is there even if it is
empty. -/
def walk (isFile : Bool) : Path → List (List Char) → Path
  | path, [] => path
  | path, segment :: rest =>
    let moved :=
      if isDoubleDot segment then path.up
      else if isDot segment then path else path.push isFile segment
    let isTurn := isDoubleDot segment || isDot segment
    match rest with
    | [] =>
      if isTurn then { moved with segments := moved.segments ++ [[]] } else moved
    | _ => walk isFile moved rest

def ofText (isSpecial isFile : Bool) (text : List Char) : Path :=
  let strokes := text.map fun char =>
    if isSpecial ∧ char = '\\' then '/' else char
  walk isFile ⟨[], false⟩ ((Text.pieces '/' strokes).map (encode .path))

def text (path : Path) : List Char :=
  path.segments.flatMap fun segment => '/' :: segment

end Path

end BoundKey.Url
