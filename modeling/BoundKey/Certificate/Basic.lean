import BoundKey.Certificate.Instant
import BoundKey.Certificate.PublicKeyInfo
import BoundKey.Name.Basic
import BoundKey.Rsa.Pkcs1

set_option autoImplicit false

/-!
Certificates. A certificate is kept in its encoded form; `Certificate.body?`
reads what it says, and `Certificate.isSignedBy` says whether a key has signed
it.
-/

namespace BoundKey

open Der (Element Identifier Tag)

structure Certificate where
  der : Bytes
  deriving DecidableEq, Repr

namespace Certificate

structure Extension where
  kind : Identifier
  critical : Bool
  value : Bytes
  deriving DecidableEq, Repr

def Extension.toElement (extension : Extension) : Element :=
  let flag := if extension.critical then [Element.truth] else []
  .sequence (extension.kind.toElement :: flag ++ [.octets extension.value])

def Extension.ofElement? (element : Element) : Option Extension := do
  let parts ← element.parts? Tag.sequence
  let extension : Extension ← match parts with
    | [kind, value] => some ⟨← Identifier.ofElement? kind, false, value.contents⟩
    | [kind, _, value] =>
        some ⟨← Identifier.ofElement? kind, true, value.contents⟩
    | _ => none
  if extension.toElement = element then some extension else none

structure Body where
  serial : Nat
  issuer : DistinguishedName
  notBefore : Instant
  notAfter : Instant
  subject : DistinguishedName
  key : Rsa.PublicKey
  extensions : List Extension
  deriving DecidableEq, Repr

def signatureKind : Identifier :=
  ⟨[1, 2, 840, 113549, 1, 1, 11]⟩

def signatureElement : Element :=
  .sequence [signatureKind.toElement, .null]

def versionTag : Tag := 0xa0

def extensionsTag : Tag := 0xa3

def versionElement : Element :=
  .group versionTag [.natural 2]

def Body.toElement (body : Body) : Element :=
  .sequence [versionElement, .natural body.serial, signatureElement,
    body.issuer.toElement,
    .sequence [body.notBefore.toElement, body.notAfter.toElement],
    body.subject.toElement, body.key.toInfo,
    .group extensionsTag [.sequence (body.extensions.map Extension.toElement)]]

/-- What an element says, if it is one that `Body.toElement` produces. -/
def Body.ofElement? (element : Element) : Option Body := do
  match ← element.parts? Tag.sequence with
  | [_, serial, _, issuer, period, subject, info, extensions] =>
    match ← period.parts? Tag.sequence, ← extensions.parts? extensionsTag with
    | [notBefore, notAfter], [list] =>
      let items ← list.parts? Tag.sequence
      let body : Body := {
        serial := ← serial.toNatural?
        issuer := ← DistinguishedName.ofElement? issuer
        notBefore := ← Instant.ofElement? notBefore
        notAfter := ← Instant.ofElement? notAfter
        subject := ← DistinguishedName.ofElement? subject
        key := ← Rsa.PublicKey.ofInfo? info
        extensions := ← items.mapM Extension.ofElement? }
      if body.toElement = element then some body else none
    | _, _ => none
  | _ => none

def ofSigned (body : Element) (signature : Bytes) : Certificate :=
  ⟨(Element.sequence [body, signatureElement, .bits signature]).encode⟩

def signedParts? (certificate : Certificate) : Option (Element × Bytes) := do
  let whole ← (Element.decode certificate.der).toOption
  match ← whole.parts? Tag.sequence with
  | [body, kind, bits] =>
    if kind = signatureElement then some (body, ← bits.toBits?) else none
  | _ => none

def body? (certificate : Certificate) : Option Body := do
  let (body, _) ← certificate.signedParts?
  Body.ofElement? body

def isSignedBy (certificate : Certificate) (key : Rsa.PublicKey) : Bool :=
  match certificate.signedParts? with
  | some (body, signature) =>
      Rsa.Pkcs1.verify key (Rsa.Pkcs1.digestInfo .sha256 body.encode) signature
  | none => false

end Certificate

end BoundKey
