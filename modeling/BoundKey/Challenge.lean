import BoundKey.Certificate.Basic
import BoundKey.Crypto.Algorithm
import BoundKey.Jws
import BoundKey.Program

set_option autoImplicit false

/-!
Answers to challenges for a client certificate: tokens signed by the certificate
of the device, which carry it. The key behind that certificate belongs to
whoever registered the device.
-/

namespace BoundKey

inductive CertificateCall where
  | certificate
  | sign (algorithm : String) (message : Bytes)
  deriving DecidableEq, Repr

abbrev CertificateCall.Answer : CertificateCall → Type
  | certificate => Except String Certificate
  | sign .. => Except SignerFault Bytes

abbrev CertificateInterface : Interface :=
  ⟨CertificateCall, CertificateCall.Answer⟩

def CertificateCall.perform (request : CertificateCall) :
    Program CertificateInterface request.Answer :=
  Program.perform CertificateInterface request

structure ChallengeClaims where
  audience : String
  issuedAt : Int
  nonce : String
  deriving DecidableEq, Repr

namespace ChallengeClaims

def memberNames : List String :=
  ["aud", "iat", "nonce"]

instance : Json.Codec ChallengeClaims where
  toValue claims := .ofPresent [
    ("aud", some (.string claims.audience)),
    ("iat", some (.int claims.issuedAt)),
    ("nonce", some (.string claims.nonce))]
  read? depth tree := do
    let record ← tree.record? memberNames depth
    let audience ← record.required "aud" Json.Reader.text
    let issuedAt ← record.required "iat" Json.Reader.signed
    let nonce ← record.required "nonce" Json.Reader.text
    some ⟨audience, issuedAt, nonce⟩

end ChallengeClaims

namespace Challenge

/-- The header of an answer: it carries the certificate. -/
def header (certificate : Certificate) : Jws.Header where
  algorithm := "RS256"
  kind := some "JWT"
  keyId := none
  certificates := some [Base64.encode .padded certificate.der]

def demand (name value : String) : Operation CertificateInterface Unit :=
  if value.isEmpty then throw (.argumentInvalid s!"{name} must not be empty")
  else pure ()

def failureOf (fault : Jws.Fault) : Failure :=
  match fault with
  | .couldNotSign cause => .deviceCertificateSigning cause
  | other => .jsonConstructionFailed other.message

/-- Makes the answer: the arguments are looked at, the certificate is asked for
once, then it signs once. -/
def tokenFor (nonce audience : String) (now : Int) :
    Operation CertificateInterface String := do
  demand "nonce" nonce
  demand "audience" audience
  let encoded ← ExceptT.lift CertificateCall.certificate.perform
  let certificate ← Operation.ofExcept
      (encoded.mapError .certificateEncodingError)
  Operation.log (.answeringChallenge audience)
  let claims : ChallengeClaims := ⟨audience, now, nonce⟩
  let signed ← ExceptT.lift (Jws.tokenize (header certificate) claims
    fun message =>
      (CertificateCall.sign SigningAlgorithm.sha256.name message).perform)
  Operation.ofExcept (signed.mapError failureOf)

def answer (nonce audience : String) (now : Int) :
    Operation CertificateInterface String :=
  (tokenFor nonce audience now).reporting .challengeResponse

end Challenge

end BoundKey
