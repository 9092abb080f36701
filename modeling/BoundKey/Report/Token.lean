import BoundKey.Challenge
import BoundKey.Manager.Request
import BoundKey.Report.Fault

set_option autoImplicit false

/-!
Tokens that have been taken apart, as objects to look at.
-/

namespace BoundKey.Jws

def textOrNull (value : Option String) : Json.Value :=
  (value.map Json.Value.string).getD .null

def Header.report (header : Header) : Json.Value :=
  .object [("alg", .string header.algorithm), ("typ", textOrNull header.kind),
    ("kid", textOrNull header.keyId),
    ("x5c",
      (header.certificates.map fun texts =>
        Json.Value.array (texts.map .string)).getD .null)]

def Parts.report {α : Type} [Json.Codec α] (parts : Parts α) : Json.Value :=
  .object [("header", parts.header.report),
    ("payload", .string (Json.encode parts.payload)),
    ("signing_input", .string parts.signingInput),
    ("signature", .string (Hex.encode parts.signature))]

def payloadReport (α : Type) [Json.Codec α] (token : String) : Json.Value :=
  match decompose α token with
  | .ok parts => .string (Json.encode parts.payload)
  | .error fault => fault.report.toValue

end BoundKey.Jws
