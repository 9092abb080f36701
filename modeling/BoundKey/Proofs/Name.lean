import BoundKey.Name.Text
import BoundKey.Proofs.Der
import BoundKey.Proofs.Der.Identifier
import BoundKey.Proofs.Program

set_option autoImplicit false

/-!
Distinguished names written and read again. A name that comes from a text has
kinds that can be packed and values whose tags are known, because the text is
refused otherwise; so its encoding is read as the same name, if it is not too
long.
-/

namespace BoundKey

open Der (Element Identifier Tag)

/-! ### Names that can be written -/

structure Attribute.IsWritable (item : Attribute) : Prop where
  kind : item.kind.IsPacked
  value : item.value.tag.IsReadable

theorem Attribute.ofElement?_toElement
    {item : Attribute} (writable : item.IsWritable)
    (small : item.toElement.encode.length ≤ Der.maxLength) :
    ofElement? item.toElement = some item := by
  have tagged : ∀ tag ∈ [Tag.objectIdentifier, item.value.tag], tag.IsReadable :=
    List.forall_mem_cons.2 ⟨by decide, List.forall_mem_singleton.2 writable.value⟩
  have parts : item.toElement.parts? Tag.sequence =
      some [item.kind.toElement, item.value] :=
    Element.parts?_group_of_small small tagged
  simp only [ofElement?, parts, Option.bind_eq_bind, Option.bind_some,
    Identifier.ofElement?_toElement writable.kind]

namespace DistinguishedName

def IsWritable (name : DistinguishedName) : Prop :=
  ∀ part ∈ name.parts, ∀ item ∈ part, item.IsWritable

theorem ofElement?_toElement {name : DistinguishedName}
    (writable : name.IsWritable)
    (small : name.toElement.encode.length ≤ Der.maxLength) :
    ofElement? name.toElement = some name := by
  have sets : name.toElement.parts? Tag.sequence =
      some (name.parts.map fun part =>
        .group Tag.set (part.map Attribute.toElement)) := by
    apply Element.parts?_group_of_small small
    simp only [List.forall_mem_map]
    exact fun _ _ => (by decide : Tag.set.IsReadable)
  have parts :
      (name.parts.map fun part => Element.group Tag.set
        (part.map Attribute.toElement)).mapM (fun part => do
      let members ← part.parts? Tag.set
      members.mapM Attribute.ofElement?) = some name.parts := by
    apply Element.mapM_map_eq_some
    intro part member
    have fits :=
      Nat.le_trans (Element.length_encode_le_of_mem
        (List.mem_map_of_mem member)) small
    have items :
        (Element.group Tag.set (part.map Attribute.toElement)).parts? Tag.set =
        some (part.map Attribute.toElement) := by
      apply Element.parts?_group_of_small fits
      simp only [List.forall_mem_map]
      exact fun _ _ => (by decide : Tag.sequence.IsReadable)
    rw [items, Option.bind_eq_bind, Option.bind_some]
    apply Element.mapM_map_eq_some
    intro item inside
    exact Attribute.ofElement?_toElement (writable part member item inside)
      (Nat.le_trans (Element.length_encode_le_of_mem
        (List.mem_map_of_mem inside)) fits)
  rw [ofElement?, sets, Option.bind_eq_bind, Option.bind_some, parts]
  rfl

end DistinguishedName

/-! ### Names that come from a text -/

namespace AttributeType

theorem isPacked_of_names : ∀ known ∈ names, known.1.IsPacked := by
  decide

theorem isPacked_of_ofName? {name : String} {kind : Identifier}
    (found : ofName? name = some kind) : kind.IsPacked := by
  obtain ⟨known, listed, rfl⟩ := Option.map_eq_some_iff.1 found
  exact isPacked_of_names known (List.mem_of_find?_eq_some listed)

end AttributeType

namespace DistinguishedName

theorem valueTag_isReadable (kind : Identifier) : (valueTag kind).IsReadable := by
  rw [valueTag]
  split
  · decide
  · split
    · decide
    · decide

theorem isReadable_of_readValue {kind : Identifier} {text : List Char}
    {value : Element} (read : readValue kind text = .ok value) :
    value.tag.IsReadable := by
  rw [readValue.eq_def] at read
  split at read
  · split at read
    · cases read
    · obtain ⟨readable, -⟩ :=
        Element.decode_eq_ok_iff.1 (mapError_eq_ok_iff.1 read)
      exact ⟨readable.single, readable.known⟩
  · split at read
    · cases read
    · cases read
      exact valueTag_isReadable kind

theorem isWritable_of_readAttribute {text : List Char} {item : Attribute}
    (read : readAttribute text = .ok item) : item.IsWritable := by
  rw [readAttribute] at read
  split at read
  · cases read
  · dsimp only at read
    split at read
    · cases read
    · next found =>
        obtain ⟨value, valued, rfl⟩ := map_eq_ok_iff.1 read
        refine ⟨?_, isReadable_of_readValue valued⟩
        rw [Option.orElse_eq_or, Option.or_eq_some_iff] at found
        rcases found with named | ⟨-, numbered⟩
        · exact AttributeType.isPacked_of_ofName? named
        · exact Identifier.isPacked_of_ofText? numbered

theorem exists_of_mapM_ok {α β fault : Type} {read : α → Except fault β}
    {items : List α} {results : List β}
    (succeeded : items.mapM read = .ok results) {result : β}
    (member : result ∈ results) : ∃ item ∈ items, read item = .ok result := by
  induction items generalizing results with
  | nil =>
      cases succeeded
      cases member
  | cons item rest ih =>
      rw [List.mapM_cons] at succeeded
      obtain ⟨first, here, following⟩ := bind_eq_ok_iff.1 succeeded
      obtain ⟨others, later, whole⟩ := bind_eq_ok_iff.1 following
      cases whole
      cases member with
      | head => exact ⟨item, List.mem_cons_self, here⟩
      | tail _ among =>
          obtain ⟨other, inside, there⟩ := ih later among
          exact ⟨other, List.mem_cons_of_mem item inside, there⟩

theorem isWritable_of_ofText {text : String} {name : DistinguishedName}
    (read : ofText text = .ok name) : name.IsWritable := by
  obtain ⟨parts, succeeded, whole⟩ := bind_eq_ok_iff.1 read
  cases whole
  intro part member item inside
  obtain ⟨chars, -, here⟩ :=
    exists_of_mapM_ok succeeded (List.mem_reverse.1 member)
  obtain ⟨members, among, kept⟩ := bind_eq_ok_iff.1 here
  split at kept
  · next ordered =>
      cases kept
      obtain ⟨-, sorted⟩ := Option.ite_none_right_eq_some.1 ordered
      rw [← Option.some.inj sorted, List.mem_mergeSort] at inside
      obtain ⟨piece, -, found⟩ := exists_of_mapM_ok among inside
      exact isWritable_of_readAttribute found
  · cases kept

end DistinguishedName

end BoundKey
