import BoundKey.Certificate.PublicKeyInfo
import BoundKey.Proofs.Bytes

set_option autoImplicit false

/-!
The distinguished encoding read back. Lengths in the short and in the long form
are read as they are written, so an element whose contents are not too long is
read from the front of whatever follows it, and its parts one after another.
-/

namespace BoundKey.Der

/-! ### Lengths -/

theorem byteLength_le_four {length : Nat} (small : length ≤ maxLength) :
    byteLength length ≤ 4 := by
  by_contra longer
  have large : 256 ^ 4 ≤ length := pow_le_of_lt_byteLength (Nat.not_le.1 longer)
  have least : maxLength < 256 ^ 4 := by decide
  omega

theorem lengthBytes_of_long {length : Nat} (long : ¬ length < 0x80) :
    lengthBytes length = UInt8.ofNat (0x80 + byteLength length) ::
      Bytes.ofNat length :=
  if_neg long

theorem readLength_lengthBytes {length : Nat} (small : length ≤ maxLength)
    (tag : Tag) (position total : Nat) (rest : Bytes) :
    readLength tag position total (lengthBytes length ++ rest) =
      .ok (length, (lengthBytes length).length) := by
  by_cases short : length < 0x80
  · have written : lengthBytes length = [UInt8.ofNat length] := if_pos short
    have value : (UInt8.ofNat length).toNat = length :=
      Bytes.toNat_byte (by omega)
    have low : UInt8.ofNat length < 0x80 := by
      rw [UInt8.lt_iff_toNat_lt, value]
      exact short
    rw [written, List.singleton_append, readLength, if_pos low, value]
    rfl
  · have few := byteLength_le_four small
    have counted : 0 < byteLength length := by
      by_contra uncounted
      have tiny := lt_pow_byteLength length
      rw [Nat.eq_zero_of_not_pos uncounted] at tiny
      omega
    have sized : (Bytes.ofNat length).length = byteLength length :=
      Bytes.bigEndian_length _ _
    have value : (UInt8.ofNat (0x80 + byteLength length)).toNat =
        0x80 + byteLength length :=
      Bytes.toNat_byte (by omega)
    have high : ¬ UInt8.ofNat (0x80 + byteLength length) < 0x80 := by
      rw [UInt8.lt_iff_toNat_lt, value]
      exact Nat.not_lt.2 (Nat.le_add_right _ _)
    have definite : UInt8.ofNat (0x80 + byteLength length) ≠ 0x80 := by
      intro same
      have equal := congrArg UInt8.toNat same
      rw [value] at equal
      change 0x80 + byteLength length = 0x80 at equal
      omega
    have known : UInt8.ofNat (0x80 + byteLength length) ≤ 0x84 := by
      rw [UInt8.le_iff_toNat_le, value]
      exact Nat.add_le_add_left few 0x80
    have taken : (Bytes.ofNat length ++ rest).take (byteLength length) =
        Bytes.ofNat length := by
      rw [← sized, List.take_left]
    have enough : ¬ (Bytes.ofNat length ++ rest).length < byteLength length := by
      rw [List.length_append, sized]
      omega
    rw [lengthBytes_of_long short, List.cons_append, readLength, if_neg high,
      if_neg definite, if_pos known]
    simp only [value, Nat.add_sub_cancel_left, if_neg enough, taken,
      Bytes.toNat_ofNat, if_neg (Nat.not_lt.2 small),
      lengthBytes_of_long short, if_true, List.length_cons, sized]

theorem ite_error_eq_ok_iff {α : Type} {refused : Prop} [Decidable refused]
    {fault : Fault} {result : Except Fault α}
    {value : α} : (if refused then .error fault else result) = .ok value ↔
      ¬ refused ∧ result = .ok value := by
  by_cases held : refused
  · simp [held]
  · simp [held]

/-- A length is written as it was read, so none is read in a longer form or
without an end. -/
theorem of_readLength {tag : Tag} {position total length width : Nat}
    {bytes : Bytes} (found : readLength tag position total bytes =
      .ok (length, width)) :
    length ≤ maxLength ∧ bytes.take width = lengthBytes length := by
  cases bytes with
  | nil => cases found
  | cons first rest =>
      rw [readLength] at found
      split at found
      · next short =>
          cases found
          have low : first.toNat < 0x80 := UInt8.lt_iff_toNat_lt.1 short
          have least : 0x80 ≤ maxLength := by decide
          refine ⟨by omega, ?_⟩
          rw [lengthBytes, if_pos low, UInt8.ofNat_toNat]
          rfl
      · obtain ⟨_, bounded⟩ := ite_error_eq_ok_iff.1 found
        split at bounded
        · obtain ⟨_, enough⟩ := ite_error_eq_ok_iff.1 bounded
          obtain ⟨small, compared⟩ := ite_error_eq_ok_iff.1 enough
          split at compared
          · next minimal =>
              obtain ⟨sameLength, sameWidth⟩ :=
                Prod.mk.inj (Except.ok.inj compared)
              rw [sameLength] at small minimal
              rw [← sameWidth, List.take_succ_cons, ← minimal]
              exact ⟨Nat.not_lt.1 small, rfl⟩
          · cases compared
        · cases bounded

theorem length_lengthBytes_le {length : Nat} (small : length ≤ maxLength) :
    (lengthBytes length).length ≤ 5 := by
  have few := byteLength_le_four small
  rw [lengthBytes]
  split
  · rw [List.length_singleton]
    decide
  · rw [List.length_cons, Bytes.ofNat, Bytes.bigEndian_length]
    omega

/-! ### Elements -/

def Tag.IsReadable (tag : Tag) : Prop :=
  Tag.number tag ≠ 31 ∧ Tag.isKnown tag = true

instance (tag : Tag) : Decidable tag.IsReadable :=
  inferInstanceAs (Decidable (_ ∧ _))

theorem Tag.isReadable_of_all {tags : List Tag}
    (all : tags.all (decide ·.IsReadable) = true) :
    ∀ tag ∈ tags, tag.IsReadable :=
  fun tag member => of_decide_eq_true (List.all_eq_true.1 all tag member)

namespace Element

structure IsReadable (element : Element) : Prop where
  single : Tag.number element.tag ≠ 31
  known : Tag.isKnown element.tag = true
  small : element.contents.length ≤ maxLength

theorem IsReadable.length_encode_le
    {element : Element} (readable : element.IsReadable) :
    element.encode.length ≤ element.contents.length + 6 := by
  have lengths := length_lengthBytes_le readable.small
  simp only [encode, List.length_cons, List.length_append]
  omega

theorem IsReadable.read_encode {element : Element}
    (readable : element.IsReadable) (rest : Bytes) :
    read (element.encode ++ rest) = .ok (element, rest) := by
  have measured := readLength_lengthBytes readable.small element.tag 1
    ((lengthBytes element.contents.length
      ++ (element.contents ++ rest)).length + 1) (element.contents ++ rest)
  have whole : element.encode ++ rest =
      element.tag :: (lengthBytes element.contents.length
        ++ (element.contents ++ rest)) := by
    simp only [encode, List.cons_append, List.append_assoc]
  have enough : ¬ (element.contents ++ rest).length <
      element.contents.length := by
    rw [List.length_append]
    omega
  rw [whole, read, if_neg readable.single,
    if_neg (not_not_intro readable.known), measured]
  simp only [List.drop_left, if_neg enough, List.take_left]

theorem of_read {bytes rest : Bytes} {element : Element}
    (found : read bytes = .ok (element, rest)) :
    element.IsReadable ∧ element.encode ++ rest = bytes := by
  cases bytes with
  | nil => cases found
  | cons tag tail =>
      rw [read] at found
      obtain ⟨single, tagged⟩ := ite_error_eq_ok_iff.1 found
      obtain ⟨known, measuring⟩ := ite_error_eq_ok_iff.1 tagged
      split at measuring
      · cases measuring
      · next length width measured =>
          obtain ⟨enough, cut⟩ := ite_error_eq_ok_iff.1 measuring
          cases cut
          obtain ⟨small, written⟩ := of_readLength measured
          have sized : ((tail.drop width).take length).length = length :=
            List.length_take_of_le (Nat.not_lt.1 enough)
          refine ⟨⟨single, Decidable.not_not.1 known, ?_⟩, ?_⟩
          · rw [sized]
            exact small
          · rw [encode, sized, ← written, List.append_assoc, List.cons_append]
            simp only [List.take_append_drop]

/-- Bytes are read as an element exactly if they are its encoding: there is no
second one. -/
theorem decode_eq_ok_iff {bytes : Bytes} {element : Element} :
    decode bytes = .ok element ↔ element.IsReadable ∧ bytes = element.encode := by
  constructor
  · intro found
    rw [decode] at found
    split at found
    · cases found
    · next whole =>
        cases found
        obtain ⟨readable, written⟩ := of_read whole
        rw [List.append_nil] at written
        exact ⟨readable, written.symm⟩
    · cases found
  · rintro ⟨readable, rfl⟩
    have found := readable.read_encode []
    rw [List.append_nil] at found
    rw [decode, found]

theorem decodeAll_of_read {bytes rest : Bytes} {element : Element}
    (found : read bytes = .ok (element, rest)) :
    decodeAll bytes = (decodeAll rest).map (element :: ·) := by
  cases bytes with
  | nil => cases found
  | cons first tail =>
      rw [decodeAll]
      split
      · next failed => cases found.symm.trans failed
      · next same => cases found.symm.trans same; rfl

theorem decodeAll_flatMap_encode {elements : List Element}
    (readable : ∀ element ∈ elements, element.IsReadable) :
    decodeAll (elements.flatMap encode) = some elements := by
  induction elements with
  | nil => rw [List.flatMap_nil, decodeAll]
  | cons element rest ih =>
      have first := readable element List.mem_cons_self
      have others := ih fun other member =>
        readable other (List.mem_cons_of_mem element member)
      rw [List.flatMap_cons, decodeAll_of_read (first.read_encode _), others]
      rfl

theorem isReadable_sequence {elements : List Element}
    (small : (elements.flatMap encode).length ≤ maxLength) :
    (sequence elements).IsReadable :=
  ⟨(by decide : Tag.number Tag.sequence ≠ 31),
    (by decide : Tag.isKnown Tag.sequence = true), small⟩

theorem isReadable_bits {bytes : Bytes} (small : bytes.length < maxLength) :
    (bits bytes).IsReadable :=
  ⟨(by decide : Tag.number Tag.bitString ≠ 31),
    (by decide : Tag.isKnown Tag.bitString = true), small⟩

theorem toBits?_bits (bytes : Bytes) : (bits bytes).toBits? = some bytes := rfl

theorem parts?_group {tag : Tag} {elements : List Element}
    (readable : ∀ element ∈ elements, element.IsReadable) :
    (group tag elements).parts? tag = some elements := by
  rw [parts?, group, if_pos rfl]
  exact decodeAll_flatMap_encode readable

theorem parts?_sequence {elements : List Element}
    (readable : ∀ element ∈ elements, element.IsReadable) :
    (sequence elements).parts? Tag.sequence = some elements :=
  parts?_group readable

theorem mapM_map_eq_some {α : Type} {write : α → Element}
    {read? : Element → Option α} {items : List α}
    (reads : ∀ item ∈ items, read? (write item) = some item) :
    (items.map write).mapM read? = some items := by
  induction items with
  | nil => rfl
  | cons item rest ih =>
      have later := ih fun other member =>
        reads other (List.mem_cons_of_mem item member)
      rw [List.map_cons, List.mapM_cons, reads item List.mem_cons_self, later]
      rfl

/-! ### Parts of an encoding that is not too long -/

theorem contents_length_lt (element : Element) :
    element.contents.length < element.encode.length := by
  simp only [encode, List.cons_append, List.length_cons, List.length_append]
  omega

theorem isReadable_of_small {element : Element} (tagged : element.tag.IsReadable)
    (small : element.encode.length ≤ maxLength) : element.IsReadable :=
  ⟨tagged.1, tagged.2, Nat.le_of_lt
    (Nat.lt_of_lt_of_le element.contents_length_lt small)⟩

theorem length_encode_le_of_mem {tag : Tag} {elements : List Element}
    {element : Element} (member : element ∈ elements) :
    element.encode.length ≤ (group tag elements).encode.length := by
  obtain ⟨front, back, rfl⟩ := List.append_of_mem member
  have inner : ((front ++ element :: back).flatMap encode).length <
      (group tag (front ++ element :: back)).encode.length :=
    contents_length_lt (group tag (front ++ element :: back))
  simp only [List.flatMap_append, List.flatMap_cons, List.length_append] at inner
  omega

theorem parts?_group_of_small {tag : Tag} {elements : List Element}
    (small : (group tag elements).encode.length ≤ maxLength)
    (tagged : ∀ part ∈ elements.map Element.tag, part.IsReadable) :
    (group tag elements).parts? tag = some elements :=
  parts?_group fun element member =>
    isReadable_of_small (tagged element.tag (List.mem_map_of_mem member))
      (Nat.le_trans (length_encode_le_of_mem member) small)

/-! ### Numbers -/

/-- An integer, in the fewest bytes: the top bit says that it is not negative,
and a first byte of zero is there only to say so. -/
structure WritesNatural (element : Element) (number : Nat) : Prop where
  tag : element.tag = Tag.integer
  value : Bytes.toNat element.contents = number
  signed : ∃ first rest, element.contents = first :: rest ∧ first < 0x80
  fewest : ∀ second rest, element.contents = 0 :: second :: rest → 0x80 ≤ second

theorem natural_contents_length (number : Nat) :
    (natural number).contents.length = bitLength number / 8 + 1 :=
  Bytes.bigEndian_length _ _

theorem isReadable_natural {number : Nat}
    (small : bitLength number / 8 < maxLength) : (natural number).IsReadable := by
  refine ⟨(by decide : Tag.number Tag.integer ≠ 31),
    (by decide : Tag.isKnown Tag.integer = true), ?_⟩
  rw [natural_contents_length]
  exact small

theorem toNat_natural (number : Nat) :
    Bytes.toNat (natural number).contents = number := by
  apply Bytes.toNat_bigEndian
  have below := lt_two_pow_bitLength number
  have wide : 2 ^ bitLength number ≤ 2 ^ (8 * (bitLength number / 8 + 1)) :=
    Nat.pow_le_pow_right (by decide) (by omega)
  rw [Nat.pow_mul] at wide
  exact Nat.lt_of_lt_of_le below wide

private theorem two_pow_bytes (bits count : Nat) :
    2 ^ (bits + 8 * count) = 2 ^ bits * 256 ^ count := by
  rw [Nat.pow_add, Nat.pow_mul]

/-- The first byte leaves its top bit to the sign, because the number of bytes
is one more than the bits fill. -/
theorem natural_signed (number : Nat) :
    ∃ first rest, (natural number).contents = first :: rest ∧ first < 0x80 := by
  have sized := natural_contents_length number
  have value := toNat_natural number
  cases written : (natural number).contents with
  | nil =>
      rw [written] at sized
      cases sized
  | cons first rest =>
      refine ⟨first, rest, rfl, ?_⟩
      rw [written, List.length_cons, Nat.succ_inj] at sized
      rw [written, Bytes.toNat_cons] at value
      by_contra negative
      rw [UInt8.lt_iff_toNat_lt] at negative
      have large : 2 ^ 7 * 256 ^ rest.length ≤ first.toNat * 256 ^ rest.length :=
        Nat.mul_le_mul_right _ (Nat.not_lt.1 negative)
      have below : 2 ^ bitLength number ≤ 2 ^ (7 + 8 * rest.length) :=
        Nat.pow_le_pow_right (by decide) (by omega)
      rw [two_pow_bytes] at below
      have less := lt_two_pow_bitLength number
      omega

theorem natural_fewest {number : Nat} {second : UInt8} {rest : Bytes}
    (written : (natural number).contents = 0 :: second :: rest) :
    0x80 ≤ second := by
  have sized := natural_contents_length number
  have value := toNat_natural number
  rw [written, List.length_cons, List.length_cons, Nat.succ_inj] at sized
  rw [written, Bytes.toNat_zero_cons] at value
  by_contra redundant
  rw [UInt8.le_iff_toNat_le, Nat.not_le] at redundant
  have small := Bytes.toNat_cons_lt redundant rest
  have positive : number ≠ 0 := by
    intro zero
    rw [zero] at sized
    cases sized
  have filled : 2 ^ (7 + 8 * rest.length) ≤ 2 ^ (bitLength number - 1) :=
    Nat.pow_le_pow_right (by decide) (by omega)
  rw [two_pow_bytes] at filled
  have least := two_pow_bitLength_le positive
  rw [value] at small
  change number < 2 ^ 7 * 256 ^ rest.length at small
  omega

theorem toNatural?_natural (number : Nat) :
    (natural number).toNatural? = some number := by
  simp only [toNatural?, toNat_natural, if_true]

theorem natural_writes (number : Nat) : (natural number).WritesNatural number :=
  ⟨rfl, toNat_natural number, natural_signed number, fun _ _ => natural_fewest⟩

end Element

end BoundKey.Der
