import BoundKey.Failure
import BoundKey.Url.Basic

set_option autoImplicit false

/-!
What of a request's URL is signed. The URL must be readable and have a host;
authority and path are taken from its text as it was given, so that nothing is
rewritten on the way.
-/

namespace BoundKey

/-- The authority and the path of a request, as they stand in its URL. -/
structure RequestTarget where
  authority : String
  path : String
  deriving DecidableEq, Repr

namespace RequestTarget

def mark : List Char :=
  [':', '/', '/']

def endsAuthority (char : Char) : Bool :=
  char == '/' || char == '?' || char == '#'

def endsPath (char : Char) : Bool :=
  char == '?' || char == '#'

def ofRest (rest : List Char) : RequestTarget where
  authority := String.ofList (rest.takeWhile (¬ endsAuthority ·))
  path :=
    String.ofList ((rest.dropWhile (¬ endsAuthority ·)).takeWhile (¬ endsPath ·))

def unreadable (text : String) (fault : Url.Fault) : Failure :=
  .argumentInvalid s!"Invalid URL `{text}`: {fault.message}"

def hostless (url : Url) : Failure :=
  .argumentInvalid s!"URL `{url.serialize}` has no host"

def parse (text : String) : Except Failure RequestTarget :=
  let trimmed := Text.trim text
  match Url.parse trimmed with
  | .error fault => .error (unreadable trimmed fault)
  | .ok url =>
    match url.host?, Text.splitOnce mark trimmed.toList with
    | some _, some (_, rest) => .ok (ofRest rest)
    | _, _ => .error (hostless url)

end RequestTarget

end BoundKey
