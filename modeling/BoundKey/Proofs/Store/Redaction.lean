import BoundKey.Proofs.Text.Blank
import BoundKey.Report.Key

set_option autoImplicit false

/-!
What the words of a key entry tell. The private key is marked as left out, the
rest follows from the public one, and no entry's words speak of primes: the
letter `m` occurs in none of them.
-/

namespace BoundKey

namespace Decimal

theorem notMem_digits {letter : Char}
    (other : ∀ value < 10, letter ≠ digit value)
    (number : Nat) : letter ∉ digits number := by
  induction number using Nat.strong_induction_on with
  | h number ih =>
      rw [digits]
      split
      · next small =>
          exact fun member => other number small (List.mem_singleton.1 member)
      · next large =>
          rw [List.mem_append, List.mem_singleton, not_or]
          exact ⟨ih (number / 10) (by omega),
            other (number % 10) (Nat.mod_lt number (by decide))⟩

end Decimal

namespace Description

open Decimal (digits)

theorem infix_intercalate (separator : String) {text : String}
    {texts : List String} (member : text ∈ texts) :
    text.toList <:+: (separator.intercalate texts).toList := by
  induction texts with
  | nil => cases member
  | cons first texts ih =>
      cases texts with
      | nil =>
          refine ⟨[], [], ?_⟩
          rw [List.nil_append, List.append_nil, List.mem_singleton.1 member,
            String.intercalate_singleton]
      | cons next rest =>
          rw [String.intercalate_cons_cons, String.toList_append,
            String.toList_append]
          rcases List.mem_cons.1 member with rfl | later
          · rw [List.append_assoc]
            exact (List.prefix_append _ _).isInfix
          · exact (ih later).trans (List.suffix_append _ _).isInfix

theorem infix_recordText {name : String} {field : String × String}
    {fields : List (String × String)} (member : field ∈ fields) :
    (fieldText field).toList <:+: (recordText name fields).toList := by
  have among : fieldText field ∈ fields.map fieldText :=
    List.mem_map_of_mem member
  refine (infix_intercalate ", " among).trans ?_
  rw [recordText, String.toList_append, String.toList_append]
  exact (List.suffix_append _ _).isInfix.trans (List.prefix_append _ _).isInfix

def Lacks (letter : Char) (text : String) : Prop :=
  letter ∉ text.toList

instance (letter : Char) (text : String) : Decidable (Lacks letter text) :=
  inferInstanceAs (Decidable (letter ∉ text.toList))

variable {letter : Char}

theorem Lacks.append {front back : String} (inFront : Lacks letter front)
    (behind : Lacks letter back) : Lacks letter (front ++ back) := by
  rw [Lacks, String.toList_append, List.mem_append, not_or]
  exact ⟨inFront, behind⟩

theorem lacks_intercalate {separator : String} {texts : List String}
    (between : Lacks letter separator)
    (within : ∀ text ∈ texts, Lacks letter text) :
    Lacks letter (separator.intercalate texts) := by
  induction texts with
  | nil => exact List.not_mem_nil
  | cons text texts ih =>
      obtain ⟨here, later⟩ := List.forall_mem_cons.1 within
      cases texts with
      | nil => rwa [String.intercalate_singleton]
      | cons next rest =>
          rw [String.intercalate_cons_cons]
          exact (here.append between).append (ih later)

theorem lacks_recordText {name : String} {fields : List (String × String)}
    (named : Lacks 'm' name)
    (within : ∀ field ∈ fields, Lacks 'm' field.1 ∧ Lacks 'm' field.2) :
    Lacks 'm' (recordText name fields) := by
  have fieldTexts : ∀ text ∈ fields.map fieldText, Lacks 'm' text := by
    rw [List.forall_mem_map]
    intro field member
    obtain ⟨label, text⟩ := within field member
    exact (label.append (by decide)).append text
  exact ((named.append (by decide)).append
    (lacks_intercalate (by decide) fieldTexts)).append (by decide)

theorem lacks_digits (number : Nat) : 'm' ∉ digits number :=
  Decimal.notMem_digits (by decide) number

theorem lacks_digitsText (number : Nat) : Lacks 'm' (digitsText number) := by
  rw [Lacks, digitsText, String.toList_ofList]
  exact lacks_digits number

theorem lacks_numberText (number : Nat) : Lacks 'm' (numberText number) := by
  have data : Lacks 'm' (", ".intercalate ((words number).map digitsText)) := by
    apply lacks_intercalate (by decide)
    rw [List.forall_mem_map]
    exact fun word _ => lacks_digitsText word
  apply lacks_recordText (by decide)
  rw [List.forall_mem_singleton]
  exact ⟨(by decide : Lacks 'm' "data"),
    (Lacks.append (by decide) data).append (by decide)⟩

theorem lacks_padded (width number : Nat) : Lacks 'm' (padded width number) := by
  rw [Lacks, padded, String.toList_ofList, List.leftpad, List.mem_append, not_or]
  refine ⟨fun zero => ?_, lacks_digits number⟩
  exact absurd (List.eq_of_mem_replicate zero) (by decide)

theorem lacks_yearText (year : Int) : Lacks 'm' (yearText year) := by
  rw [yearText]
  split
  · exact Lacks.append (by decide) (lacks_padded 4 year.natAbs)
  · exact lacks_padded 4 year.natAbs

theorem lacks_dateText (days : Int) : Lacks 'm' (dateText days) := by
  apply lacks_intercalate (by decide)
  rw [List.forall_mem_cons, List.forall_mem_cons, List.forall_mem_singleton]
  exact ⟨lacks_yearText _, lacks_padded 2 _, lacks_padded 2 _⟩

theorem lacks_timeText (inDay : Nat) : Lacks 'm' (timeText inDay) := by
  apply lacks_intercalate (by decide)
  rw [List.forall_mem_cons, List.forall_mem_cons, List.forall_mem_singleton]
  exact ⟨lacks_digitsText _, lacks_padded 2 _,
    (lacks_padded 2 _).append (by decide)⟩

theorem lacks_momentText (seconds : Int) : Lacks 'm' (momentText seconds) := by
  apply lacks_intercalate (by decide)
  rw [List.forall_mem_cons, List.forall_mem_cons, List.forall_mem_singleton]
  exact ⟨lacks_dateText _, lacks_timeText _, by decide⟩

theorem lacks_security (security : KeySecurity) :
    Lacks 'm' security.description := by
  cases security with
  | hardware attested => cases attested <;> decide
  | software => decide
  | unknown => decide

end Description

namespace KeyEntry

open Description (Lacks infix_recordText lacks_recordText lacks_numberText
  lacks_digitsText lacks_momentText lacks_security)

theorem lacks_keyDescription (key : Rsa.PublicKey) :
    Lacks 'm' key.description := by
  apply lacks_recordText (by decide)
  rw [List.forall_mem_cons, List.forall_mem_singleton]
  exact ⟨⟨(by decide : Lacks 'm' "n"), lacks_numberText _⟩,
    (by decide : Lacks 'm' "e"), lacks_numberText _⟩

theorem lacks_description (entry : KeyEntry) : Lacks 'm' entry.description := by
  apply lacks_recordText (by decide)
  rw [List.forall_mem_cons, List.forall_mem_cons, List.forall_mem_cons,
    List.forall_mem_cons, List.forall_mem_singleton]
  exact ⟨by decide,
    ⟨(by decide : Lacks 'm' "public_key"), lacks_keyDescription _⟩,
    ⟨(by decide : Lacks 'm' "certificate_chain_len"), lacks_digitsText _⟩,
    ⟨(by decide : Lacks 'm' "created_at"), lacks_momentText _⟩,
    (by decide : Lacks 'm' "security"), lacks_security _⟩

/-- Entries that differ only in the private half of their key are the same in
words. -/
theorem description_private (entry : KeyEntry) {privateKey : Rsa.PrivateKey}
    (samePublic : privateKey.publicKey = entry.publicKey) :
    KeyEntry.description { entry with privateKey } = entry.description := by
  have shown : KeyEntry.publicKey { entry with privateKey } = entry.publicKey :=
    samePublic
  rw [description, shown]
  rfl

/-- Whatever an entry is, its words mark the private key as left out and do not
speak of its primes. -/
theorem toValue_redacted (entry : KeyEntry) :
    entry.toValue =
      .object [("certificates", .int entry.certificates.length),
        ("has_leaf", .bool entry.certificates.head?.isSome),
        ("debug_redacted", .bool true), ("debug_primes", .bool false),
        ("security", .string entry.security.description)] := by
  have marked : Description.shows "private_key: \"<redacted>\""
      entry.description = true := by
    have spelled : "private_key: \"<redacted>\"" =
        Description.fieldText ("private_key", "\"<redacted>\"") := by decide
    rw [Description.shows, Text.isSome_splitOnce_iff, spelled]
    exact infix_recordText List.mem_cons_self
  have silent : Description.shows "primes" entry.description = false := by
    rw [Description.shows, ← Bool.not_eq_true, Text.isSome_splitOnce_iff]
    intro occurs
    exact lacks_description entry (occurs.subset (by decide))
  rw [toValue, marked, silent]

end KeyEntry

end BoundKey
