import BoundKey.Certificate.SelfSigned
import BoundKey.Config
import BoundKey.Report.Fault
import BoundKey.Store.Entry
import BoundKey.Text.Blank

set_option autoImplicit false

/-!
Keys, their certificates and how they are to be generated, as objects to look
at.
-/

namespace BoundKey

def GenerationParameters.toValue (parameters : GenerationParameters) :
    Json.Value :=
  .object [("key_size", .int parameters.keySize),
    ("common_name", .string parameters.commonName),
    ("validity_seconds", .int parameters.validity)]

/-- The fields of a configuration and the parameters that follow from them;
nothing if the validity has too many seconds. -/
def Config.report? (config : Config) : Option Json.Value :=
  config.generationParameters.map fun parameters =>
    .object [("key_alias", .string config.keyAlias),
      ("key_size", .int config.keySize),
      ("certificate_common_name", .string config.commonName),
      ("certificate_validity_days", .int config.validityDays),
      ("worker_pool_size", .int config.poolSize),
      ("params", parameters.toValue)]

/-! ### Entries in words -/

def KeySecurity.description : KeySecurity → String
  | hardware true => "Hardware \x7b attested: true \x7d"
  | hardware false => "Hardware \x7b attested: false \x7d"
  | software => "Software"
  | unknown => "Unknown"

namespace Description

def fieldText (field : String × String) : String :=
  field.1 ++ ": " ++ field.2

def recordText (name : String) (fields : List (String × String)) : String :=
  name ++ " \x7b " ++ ", ".intercalate (fields.map fieldText) ++ " \x7d"

/-- The digits of a number to the base of a machine word, the lowest first. -/
def words (number : Nat) : List Nat :=
  if _zero : number = 0 then []
  else number % Nat.pow 2 64 :: words (number / Nat.pow 2 64)
termination_by number
decreasing_by exact Nat.div_lt_self (Nat.pos_of_ne_zero _zero) (by decide)

def digitsText (number : Nat) : String :=
  String.ofList (Decimal.digits number)

def numberText (number : Nat) : String :=
  recordText "BigUint"
    [("data", "[" ++ ", ".intercalate ((words number).map digitsText) ++ "]")]

def padded (width number : Nat) : String :=
  String.ofList ((Decimal.digits number).leftpad width '0')

def yearText (year : Int) : String :=
  if year < 0 then "-" ++ padded 4 year.natAbs else padded 4 year.natAbs

/-- Cycles of four hundred years that lead from every year with four digits,
also before the beginning of the calendar, to one after it. -/
def lift : Nat := 30

def dateText (days : Int) : String :=
  let day := Instant.Day.ofCount (days + lift * Instant.eraDays).toNat
  "-".intercalate
    [yearText (day.year - lift * 400), padded 2 day.month, padded 2 day.day]

def timeText (inDay : Nat) : String :=
  ":".intercalate [digitsText (inDay / 3600), padded 2 (inDay / 60 % 60),
    padded 2 (inDay % 60) ++ ".0"]

/-- The moment so many seconds after the beginning of the year 1970. An entry
keeps the time of its creation to the second. -/
def momentText (seconds : Int) : String :=
  " ".intercalate [dateText (seconds / 86400),
    timeText (seconds % 86400).toNat, "+00:00:00"]

end Description

open Description (numberText momentText digitsText recordText)

def Rsa.PublicKey.description (key : Rsa.PublicKey) : String :=
  recordText "RsaPublicKey"
    [("n", numberText key.modulus), ("e", numberText key.exponent)]

/-- An entry in words, with a mark in place of the private key. -/
def KeyEntry.description (entry : KeyEntry) : String :=
  recordText "KeyEntry"
    [("private_key", "\"<redacted>\""),
      ("public_key", entry.publicKey.description),
      ("certificate_chain_len", digitsText entry.certificates.length),
      ("created_at", momentText entry.createdAt),
      ("security", entry.security.description)]

def Description.shows (pattern text : String) : Bool :=
  (Text.splitOnce pattern.toList text.toList).isSome

/-- An entry as an object. The two fields in the middle say whether its words
mark the private key as left out and whether they tell of its primes. -/
def KeyEntry.toValue (entry : KeyEntry) : Json.Value :=
  .object [("certificates", .int entry.certificates.length),
    ("has_leaf", .bool entry.certificates.head?.isSome),
    ("debug_redacted", .bool
      (Description.shows "private_key: \"<redacted>\"" entry.description)),
    ("debug_primes", .bool (Description.shows "primes" entry.description)),
    ("security", .string entry.security.description)]

/-! ### Keys and certificates -/

def Rsa.PublicKey.report (key : Rsa.PublicKey) : Json.Value :=
  .object [("n", .string (Hex.encode (Bytes.ofNat key.modulus))),
    ("e", .string (Hex.encode (Bytes.ofNat key.exponent))),
    ("size", .int key.size),
    ("thumbprint", .string (key.thumbprint.toOption.getD "")),
    ("json", .string (Jwk.ofPublicKey key).toJson)]

namespace Certificate

def instantForm (instant : Instant) : String :=
  if instant.toElement.tag = Der.Tag.utcTime then "UTCTime" else "GeneralizedTime"

/-- An extension: its kind, whether it is critical, and its value. Of the
identifier of the subject's key only the length is shown, because it changes
from key to key. -/
def Extension.toValue (extension : Extension) : Json.Value :=
  let shown : Json.Value :=
    if extension.kind = extensionKind 14 then .int extension.value.length
    else .string (Hex.encode extension.value)
  .array [.string extension.kind.toText, .bool extension.critical, shown]

/-- What a certificate says, apart from what changes from key to key; nothing if
it cannot be read. -/
def report? (certificate : Certificate) : Option Json.Value :=
  certificate.body?.map fun body =>
    .object [("version", .string "V3"),
      ("serial",
        .string (Hex.encode (Der.Element.natural body.serial).contents)),
      ("signature_algorithm", .string signatureKind.toText),
      ("issuer", .string body.issuer.toText),
      ("subject", .string body.subject.toText),
      ("subject_der", .string (Hex.encode body.subject.toElement.encode)),
      ("not_before_type", .string (instantForm body.notBefore)),
      ("not_after_type", .string (instantForm body.notAfter)),
      ("validity_seconds",
        .int (body.notAfter.seconds - body.notBefore.seconds : Int)),
      ("extensions", .array (body.extensions.map Extension.toValue)),
      ("self_signed", .bool (certificate.isSignedBy body.key)),
      ("thumbprint_length", .int ((body.key.thumbprint).toOption.getD "").length)]

end Certificate

end BoundKey
