import BoundKey.Text.Blank
import BoundKey.Url.Host
import BoundKey.Url.Path

set_option autoImplicit false

/-!
URLs. `Url.parse` reads an absolute URL the way browsers do: controls and blanks
around it, tabs and line breaks in it do not count; some schemes are special in
that their URLs have a host and take backslashes for strokes.
-/

namespace BoundKey

open Url (Fault Host Part Path)

structure Authority where
  /-- Name and password, encoded, with the sign behind them. -/
  credentials : List Char
  host : Option Host
  port : Option Nat
  deriving DecidableEq, Repr

structure Url where
  scheme : List Char
  authority : Option Authority
  path : List Char
  query : Option (List Char)
  fragment : Option (List Char)
  deriving DecidableEq, Repr

namespace Url

/-- The special schemes other than that of files, and their ports. -/
def specialPorts : List (String × Nat) :=
  [("http", 80), ("https", 443), ("ws", 80), ("wss", 443), ("ftp", 21)]

def isFileScheme (scheme : List Char) : Bool :=
  scheme == "file".toList

def defaultPort? (scheme : List Char) : Option Nat :=
  specialPorts.lookup (String.ofList scheme)

def isStroke (isSpecial : Bool) (char : Char) : Bool :=
  char == '/' || (isSpecial && char == '\\')

/-! ### Authorities -/

/-- Name and password as they stand in a URL: without a password there is no
colon, and without either no sign behind. -/
def credentialsText (text : List Char) : List Char :=
  let name := encode .credentials (text.takeWhile (· ≠ ':'))
  let password := encode .credentials ((text.dropWhile (· ≠ ':')).drop 1)
  let both := if password.isEmpty then name else name ++ ':' :: password
  if both.isEmpty then [] else both ++ ['@']

def splitLast? (separator : Char) (text : List Char) :
    Option (List Char × List Char) :=
  match text.reverse.dropWhile (· ≠ separator) with
  | [] => none
  | _ :: before =>
      some (before.reverse, (text.reverse.takeWhile (· ≠ separator)).reverse)

/-- The host and what follows it, which is empty or begins with a colon; colons
between brackets belong to the host. -/
def splitHost (inBrackets : Bool) : List Char → List Char × List Char
  | [] => ([], [])
  | char :: rest =>
    if char = ':' ∧ ¬ inBrackets then ([], char :: rest)
    else
      let inside :=
        if char = '[' then true else if char = ']' then false else inBrackets
      let (host, after) := splitHost inside rest
      (char :: host, after)

def maxPort : Nat := 65535

/-- The port of some digits; no digits are no port, and neither is the one that
the scheme uses anyway. -/
def readPort (scheme digits : List Char) : Except Fault (Option Nat) :=
  if ¬ digits.all Char.isDigit ∨ maxPort < Decimal.value digits then
    .error .invalidPort
  else if digits.isEmpty ∨
      some (Decimal.value digits) = defaultPort? scheme then
    .ok none
  else .ok (some (Decimal.value digits))

/-- Reads an authority: credentials, host and port. What follows the digits of a
port behind a backslash is not part of it and is handed back. -/
def readAuthority (scheme : List Char) (isSpecial endsText : Bool)
    (text : List Char) : Except Fault (Authority × List Char) := do
  let (credentials, place) := (splitLast? '@' text).getD ([], text)
  if text = ['@'] ∧ ¬ endsText then throw .emptyHost
  let (hostText, after) := splitHost false place
  if isSpecial ∧ hostText.isEmpty then throw .emptyHost
  let host ← if isSpecial then Host.ofSpecial hostText else Host.ofOther hostText
  if hostText.isEmpty ∧ ¬ after.isEmpty then throw .emptyHost
  let digits := (after.drop 1).takeWhile (· ≠ '\\')
  let port ← readPort scheme digits
  let written := credentialsText credentials
  if hostText.isEmpty ∧ ¬ written.isEmpty then throw .emptyHost
  let present := if hostText.isEmpty then none else some host
  .ok (⟨written, present, port⟩, (after.drop 1).dropWhile (· ≠ '\\'))

/-! ### The kinds of URLs -/

abbrev Front := Option Authority × List Char

/-- A special URL that is not a file's; any strokes after the scheme lead to the
authority. -/
def readSpecial (scheme : List Char) (endsText : Bool) (text : List Char) :
    Except Fault Front := do
  let rest := text.dropWhile (isStroke true)
  let area := rest.takeWhile (¬ isStroke true ·)
  let after := rest.drop area.length
  let (authority, _) ← readAuthority scheme true (endsText && after.isEmpty) area
  .ok (some authority, (Path.ofText true false (after.drop 1)).text)

def filePath (path : Path) : List Char :=
  '/' :: path.text.dropWhile (· = '/')

def hostless (text : List Char) : Front :=
  (some ⟨[], none, none⟩, filePath (Path.ofText true true text))

/-- The URL of a file. Two strokes lead to a host, unless the letter of a drive
follows; the machine itself needs no name, and a path that begins with the
letter of a drive has no host. -/
def readFile (text : List Char) : Except Fault Front :=
  match text with
  | first :: second :: rest =>
    if isStroke true first ∧ isStroke true second then do
      let hostText := rest.takeWhile (¬ isStroke true ·)
      let after := rest.drop hostText.length
      if isDrive hostText then .ok (hostless rest)
      -- The stroke behind an empty host counts as an empty first segment, so
      -- that the letter of a drive keeps its bar: `file:///C|/x` is written as
      -- it stands.
      else if hostText.isEmpty then .ok (hostless after)
      else
        let host ← Host.ofSpecial hostText
        if host = .name "localhost".toList then .ok (hostless after)
        else
          let path := Path.ofText true true (after.drop 1)
          let present := if path.hasDrive then none else some host
          .ok (some ⟨[], present, none⟩, filePath path)
    else if isStroke true first then .ok (hostless (second :: rest))
    else .ok (hostless text)
  | [first] =>
    if isStroke true first then .ok (hostless []) else .ok (hostless text)
  | [] => .ok (hostless [])

/-- Any other URL: with an authority behind two strokes, with a path behind one,
or with a text that is no path. Without an authority a path may not begin with
two strokes. -/
def readOther (scheme : List Char) (endsText : Bool) (text : List Char) :
    Except Fault Front :=
  match text with
  | '/' :: '/' :: rest => do
    let area := rest.takeWhile (· ≠ '/')
    let after := rest.drop area.length
    let (authority, left) ←
      readAuthority scheme false (endsText && after.isEmpty) area
    match left ++ after with
    | [] => .ok (some authority, [])
    | '/' :: path => .ok (some authority, (Path.ofText false false path).text)
    | path => .ok (some authority, (Path.ofText false false path).text)
  | '/' :: rest =>
    let path := (Path.ofText false false rest).text
    .ok (none, if ['/', '/'].isPrefixOf path then '/' :: '.' :: path else path)
  | _ => .ok (none, encode .opaquePath text)

/-! ### Reading and writing -/

def isSkipped (char : Char) : Bool :=
  char == '\t' || char == '\n' || char == '\r'

def significant (text : String) : List Char :=
  (Text.trimChars (fun char => char.toNat ≤ 0x20) text.toList).filter
    (¬ isSkipped ·)

def isSchemeChar (char : Char) : Bool :=
  char.isAlphanum || char == '+' || char == '-' || char == '.'

def splitScheme? (text : List Char) : Option (List Char × List Char) :=
  match text.takeWhile isSchemeChar, text.dropWhile isSchemeChar with
  | first :: others, ':' :: rest =>
    if first.isAlpha then some ((first :: others).map Char.toLower, rest)
    else none
  | _, _ => none

def parse (text : String) : Except Fault Url :=
  match splitScheme? (significant text) with
  | none => .error .missingScheme
  | some (scheme, rest) => do
    let beforeFragment := rest.takeWhile (· ≠ '#')
    let fragment := (rest.dropWhile (· ≠ '#')).tail?
    let main := beforeFragment.takeWhile (· ≠ '?')
    let query := (beforeFragment.dropWhile (· ≠ '?')).tail?
    let endsText := fragment.isNone && query.isNone
    let isSpecial := isFileScheme scheme || (defaultPort? scheme).isSome
    let (authority, path) ←
      if isFileScheme scheme then readFile main
      else if isSpecial then readSpecial scheme endsText main
      else readOther scheme endsText main
    .ok {
      scheme := scheme
      authority := authority
      path := path
      query := query.map (encode (if isSpecial then .specialQuery else .query))
      fragment := fragment.map (encode .fragment) }

def authorityText (authority : Authority) : List Char :=
  let host := (authority.host.map Host.text).getD []
  let port :=
    (authority.port.map fun number => ':' :: Decimal.digits number).getD []
  authority.credentials ++ host ++ port

def serialize (url : Url) : String :=
  let authority :=
    (url.authority.map fun present => '/' :: '/' :: authorityText present).getD []
  let query := (url.query.map fun present => '?' :: present).getD []
  let fragment := (url.fragment.map fun present => '#' :: present).getD []
  String.ofList (url.scheme ++ ':' :: authority ++ url.path ++ query ++ fragment)

def host? (url : Url) : Option Host :=
  url.authority.bind (·.host)

end Url

end BoundKey
