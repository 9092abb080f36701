import BoundKey.Crypto.Fault
import BoundKey.Json.Record
import BoundKey.Text.Base64
import BoundKey.Text.Blank

set_option autoImplicit false

/-!
Signed JSON in the compact form: header, payload and signature as base 64 texts
for URLs, joined by dots. Header and payload with their dot are what is signed.
A token is taken apart strictly, save that dots and white space around it are
dropped.
-/

namespace BoundKey.Jws

inductive Fault where
  | couldNotFormat (reason : String)
  | couldNotSign (cause : SignerFault)
  | couldNotExtract (reason : String)
  deriving DecidableEq, Repr

def Fault.message : Fault → String
  | couldNotFormat reason => s!"Could not format: `{reason}`"
  | couldNotSign cause => s!"Could not sign: `{cause.message}`"
  | couldNotExtract reason => s!"Could not extract token: `{reason}`"

structure Header where
  algorithm : String
  kind : Option String
  keyId : Option String
  /-- Certificates as padded base 64 of their DER form, the signer's own
  first. -/
  certificates : Option (List String)
  deriving DecidableEq, Repr

instance : Json.Codec Header where
  toValue header := .ofPresent [
    ("alg", some (.string header.algorithm)),
    ("typ", header.kind.map .string),
    ("kid", header.keyId.map .string),
    ("x5c", header.certificates.map fun texts => .array (texts.map .string))]
  read? depth tree := do
    let record ← tree.record? ["alg", "typ", "kid", "x5c"] depth
    let algorithm ← record.required "alg" Json.Reader.text
    let kind ← record.optional "typ" Json.Reader.text
    let keyId ← record.optional "kid" Json.Reader.text
    let certificates ← record.optional "x5c" (Json.Reader.list Json.Reader.text)
    some ⟨algorithm, kind, keyId, certificates⟩

def segment (text : String) : String :=
  Base64.encode .url (Utf8.encode text)

def signingInput {α : Type} [Json.Codec α] (header : Header) (payload : α) :
    String :=
  segment (Json.encode header) ++ "." ++ segment (Json.encode payload)

/-- The token of a header and a payload. The signing operation is called once,
with the signing input. -/
def tokenize {m : Type → Type} [Monad m] {α : Type} [Json.Codec α]
    (header : Header) (payload : α)
    (sign : Bytes → m (Except SignerFault Bytes)) : m (Except Fault String) := do
  let input := signingInput header payload
  match ← sign (Utf8.encode input) with
  | .ok signature => pure (.ok (input ++ "." ++ Base64.encode .url signature))
  | .error cause => pure (.error (.couldNotSign cause))

structure Parts (α : Type) where
  header : Header
  payload : α
  signingInput : String
  signature : Bytes

def missingPart : String :=
  "Missing token part"

def unreadable : String :=
  "Unexpected JSON"

def decodePart (part : List Char) : Except Fault Bytes :=
  match Base64.decode .url (String.ofList part) with
  | some bytes => .ok bytes
  | none => .error (.couldNotExtract Base64.refusal)

def readPart (α : Type) [Json.Codec α] (part : List Char) : Except Fault α := do
  let bytes ← decodePart part
  match Json.decode? bytes with
  | some thing => .ok thing
  | none => .error (.couldNotExtract unreadable)

/-- The three parts of a text, dots and white space around it dropped; the third
part keeps its dots. -/
def splitParts? (token : String) :
    Option (List Char × List Char × List Char) := do
  let trimmed :=
    Text.trimChars (fun char => char == '.' || Text.isBlank char) token.toList
  let (header, rest) ← Text.splitOnce ['.'] trimmed
  let (payload, signature) ← Text.splitOnce ['.'] rest
  some (header, payload, signature)

/-- Takes a token apart: header, payload and signature are read in this
order. -/
def decompose (α : Type) [Json.Codec α] (token : String) :
    Except Fault (Parts α) :=
  match splitParts? token with
  | none => .error (.couldNotExtract missingPart)
  | some (header, payload, signature) => do
    let readHeader ← readPart Header header
    let readPayload ← readPart α payload
    let bytes ← decodePart signature
    .ok ⟨readHeader, readPayload, String.ofList (header ++ '.' :: payload), bytes⟩

end BoundKey.Jws
