import BoundKey.Certificate.Basic
import BoundKey.Digest.Sha1
import BoundKey.Name.Text

set_option autoImplicit false

/-!
The certificate of a fresh key, signed by the key itself. It names its subject
as its own issuer, marks the key as one that certifies, and is valid from now on
for a given time.
-/

namespace BoundKey.Certificate

open Der (Element Identifier)

inductive Fault where
  | validityNegative
  /-- The end is later than any number of seconds that a clock can show. -/
  | beyondClock
  /-- The end is later than the last year. -/
  | endsTooLate
  | name (cause : DistinguishedName.Fault)
  | signing (cause : Rsa.Fault)
  deriving DecidableEq, Repr

def Fault.message : Fault → String
  | validityNegative => "Source value is out of range for the target type"
  | beyondClock => "overflow when adding duration to instant"
  | endsTooLate => "malformed ASN.1 DER value for GeneralizedTime"
  | name cause => cause.message
  | signing cause => cause.message

def maxClock : Nat := Nat.pow 2 63 - 1

def ending (now : Instant) (validity : Int) : Except Fault Instant :=
  if validity < 0 then .error .validityNegative
  else
    let seconds := now.seconds + validity.toNat
    if maxClock < seconds then .error .beyondClock
    else if Instant.maxSeconds < seconds then .error .endsTooLate
    else .ok ⟨seconds⟩

def extensionKind (number : Nat) : Identifier :=
  ⟨[2, 5, 29, number]⟩

def keyIdentifier (key : Rsa.PublicKey) : Extension :=
  ⟨extensionKind 14, false,
    (Element.octets (Sha1.hash key.toElement.encode)).encode⟩

def authority : Extension :=
  ⟨extensionKind 19, true, (Element.sequence [.truth]).encode⟩

def usage : Extension :=
  ⟨extensionKind 15, true, [0x03, 0x02, 0x01, 0x06]⟩

def selfIssued (key : Rsa.PublicKey) (subject : DistinguishedName)
    (start finish : Instant) : Body where
  serial := 1
  issuer := subject
  notBefore := start
  notAfter := finish
  subject := subject
  key := key
  extensions := [keyIdentifier key, authority, usage]

/-- The certificate of a key for a subject. The validity is looked at before the
name. -/
def selfSigned (key : Rsa.PrivateKey) (subject : String) (validity : Int)
    (now : Instant) : Except Fault Certificate := do
  let finish ← ending now validity
  let name ← (DistinguishedName.ofText subject).mapError .name
  let body := (selfIssued key.publicKey name now finish).toElement
  let signature ← (Rsa.Pkcs1.sign key
      (Rsa.Pkcs1.digestInfo .sha256 body.encode)).mapError .signing
  .ok (ofSigned body signature)

end BoundKey.Certificate
