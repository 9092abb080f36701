import BoundKey.Certificate.Basic
import BoundKey.Proofs.Certificate.Instant
import BoundKey.Proofs.Name
import BoundKey.Proofs.Rsa.PublicKeyInfo

set_option autoImplicit false

/-!
Certificates read back. Each part of a body is read as it was written, so a
certificate that is put together of a body and a signature says what the body
says, and whether a key has signed it is settled by that signature.
-/

namespace BoundKey

open Der (Element Identifier Tag)

namespace Certificate

/-! ### The parts of a body -/

theorem Extension.ofElement?_toElement
    {extension : Extension} (packed : extension.kind.IsPacked)
    (small : extension.toElement.encode.length ≤ Der.maxLength) :
    ofElement? extension.toElement = some extension := by
  cases extension with
  | mk kind critical value =>
      cases critical with
      | true =>
          have tagged : ∀ tag ∈ [Tag.objectIdentifier, Tag.boolean,
              Tag.octetString], tag.IsReadable :=
            Tag.isReadable_of_all (by decide)
          have parts :
              (Extension.mk kind true value).toElement.parts? Tag.sequence =
              some [kind.toElement, .truth, .octets value] :=
            Element.parts?_group_of_small small tagged
          rw [ofElement?, parts]
          simp [Identifier.ofElement?_toElement packed, Element.octets]
      | false =>
          have tagged : ∀ tag ∈ [Tag.objectIdentifier, Tag.octetString],
              tag.IsReadable :=
            Tag.isReadable_of_all (by decide)
          have parts :
              (Extension.mk kind false value).toElement.parts? Tag.sequence =
              some [kind.toElement, .octets value] :=
            Element.parts?_group_of_small small tagged
          rw [ofElement?, parts]
          simp [Identifier.ofElement?_toElement packed, Element.octets]

structure Body.IsWritable (body : Body) : Prop where
  issuer : body.issuer.IsWritable
  subject : body.subject.IsWritable
  notBefore : body.notBefore.seconds ≤ Instant.maxSeconds
  notAfter : body.notAfter.seconds ≤ Instant.maxSeconds
  key : Rsa.PublicKey.ofParts body.key.modulus body.key.exponent = .ok body.key
  extensions : ∀ extension ∈ body.extensions, extension.kind.IsPacked

/-- A body is read from an element whose parts say what it says, if it is
written as this element. -/
theorem Body.ofElement?_of_parts {body : Body} {items : List Element}
    {element version serial kind issuer period subject info wrapped notBefore
      notAfter list : Element}
    (parts : element.parts? Tag.sequence =
      some [version, serial, kind, issuer, period, subject, info, wrapped])
    (ends : period.parts? Tag.sequence = some [notBefore, notAfter])
    (inner : wrapped.parts? extensionsTag = some [list])
    (listed : list.parts? Tag.sequence = some items)
    (serials : serial.toNatural? = some body.serial)
    (issuers : DistinguishedName.ofElement? issuer = some body.issuer)
    (starts : Instant.ofElement? notBefore = some body.notBefore)
    (finishes : Instant.ofElement? notAfter = some body.notAfter)
    (subjects : DistinguishedName.ofElement? subject = some body.subject)
    (keys : Rsa.PublicKey.ofInfo? info = some body.key)
    (extensions : items.mapM Extension.ofElement? = some body.extensions)
    (back : body.toElement = element) : ofElement? element = some body := by
  simp only [ofElement?, parts, ends, inner, listed, serials, issuers, starts,
    finishes, subjects, keys, extensions,
    Option.bind_eq_bind, Option.bind_some, if_pos back]

theorem Body.ofElement?_toElement {body : Body} (writable : body.IsWritable)
    (small : body.toElement.encode.length ≤ Der.maxLength) :
    ofElement? body.toElement = some body := by
  have fits : ∀ element ∈ [versionElement, .natural body.serial,
      signatureElement, body.issuer.toElement,
      .sequence [body.notBefore.toElement, body.notAfter.toElement],
      body.subject.toElement, body.key.toInfo,
      .group extensionsTag [.sequence (body.extensions.map Extension.toElement)]],
      element.encode.length ≤ Der.maxLength :=
    fun element member =>
      Nat.le_trans (Element.length_encode_le_of_mem member) small
  simp only [List.forall_mem_cons] at fits
  obtain ⟨-, -, -, issuerFits, periodFits, subjectFits, -, wrappedFits, -⟩ := fits
  have listFits :=
    Nat.le_trans (Element.length_encode_le_of_mem List.mem_cons_self) wrappedFits
  have instants : ∀ tag ∈ [body.notBefore.toElement.tag,
      body.notAfter.toElement.tag], tag.IsReadable :=
    List.forall_mem_cons.2 ⟨Instant.isReadable_toElement _,
      List.forall_mem_singleton.2 (Instant.isReadable_toElement _)⟩
  have tags : ∀ tag ∈ [versionTag, Tag.integer, Tag.sequence, Tag.sequence,
      Tag.sequence, Tag.sequence, Tag.sequence,
      extensionsTag], tag.IsReadable := Tag.isReadable_of_all (by decide)
  have single : ∀ tag ∈ [Tag.sequence], tag.IsReadable :=
    Tag.isReadable_of_all (by decide)
  refine Body.ofElement?_of_parts (Element.parts?_group_of_small small tags)
    (Element.parts?_group_of_small periodFits instants)
    (Element.parts?_group_of_small wrappedFits single)
    (Element.parts?_group_of_small listFits ?_) (Element.toNatural?_natural _)
    (DistinguishedName.ofElement?_toElement writable.issuer issuerFits)
    (Instant.ofElement?_toElement writable.notBefore)
    (Instant.ofElement?_toElement writable.notAfter)
    (DistinguishedName.ofElement?_toElement writable.subject subjectFits)
    (Rsa.PublicKey.ofInfo?_toInfo writable.key)
    (Element.mapM_map_eq_some ?_) rfl
  · simp only [List.forall_mem_map]
    exact fun _ _ => (by decide : Tag.sequence.IsReadable)
  · intro extension member
    exact Extension.ofElement?_toElement (writable.extensions extension member)
      (Nat.le_trans (Element.length_encode_le_of_mem
        (List.mem_map_of_mem member)) listFits)

/-! ### Signed bodies -/

variable {body : Body} {signature : Bytes}

theorem signedParts?_ofSigned {body : Element} (tagged : body.tag.IsReadable)
    (small : (ofSigned body signature).der.length ≤ Der.maxLength) :
    (ofSigned body signature).signedParts? = some (body, signature) := by
  have whole : Element.decode (ofSigned body signature).der =
      .ok (.sequence [body, signatureElement, .bits signature]) :=
    Element.decode_eq_ok_iff.2
      ⟨Element.isReadable_of_small (by decide :
        Tag.sequence.IsReadable) small, rfl⟩
  have parts :
      (Element.sequence [body, signatureElement, .bits signature]).parts?
        Tag.sequence =
      some [body, signatureElement, .bits signature] :=
    Element.parts?_group_of_small small
      (List.forall_mem_cons.2 ⟨tagged, Tag.isReadable_of_all
        (by decide :
          [Tag.sequence, Tag.bitString].all (decide ·.IsReadable) = true)⟩)
  simp only [signedParts?, whole, Except.toOption, parts, Option.bind_eq_bind,
    Option.bind_some, if_true, Element.toBits?_bits]

theorem body?_ofSigned (writable : body.IsWritable)
    (small : (ofSigned body.toElement signature).der.length ≤ Der.maxLength) :
    (ofSigned body.toElement signature).body? = some body := by
  have fits : body.toElement.encode.length ≤ Der.maxLength :=
    Nat.le_trans (Element.length_encode_le_of_mem List.mem_cons_self) small
  simp only [body?, signedParts?_ofSigned (by decide : Tag.sequence.IsReadable)
    small, Option.bind_eq_bind, Option.bind_some,
    Body.ofElement?_toElement writable fits]

theorem isSignedBy_ofSigned (key : Rsa.PublicKey)
    (small : (ofSigned body.toElement signature).der.length ≤ Der.maxLength) :
    (ofSigned body.toElement signature).isSignedBy key =
      Rsa.Pkcs1.verify key (Rsa.Pkcs1.digestInfo .sha256 body.toElement.encode)
        signature := by
  rw [isSignedBy, signedParts?_ofSigned (by decide :
    Tag.sequence.IsReadable) small]

end Certificate

end BoundKey
