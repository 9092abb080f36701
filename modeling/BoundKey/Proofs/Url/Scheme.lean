import BoundKey.Proofs.Text.Blank
import BoundKey.Url.Basic

set_option autoImplicit false

/-!
The beginning of a URL. A character that counts parts a text into what is read
before it and what is read behind it, and the first colon parts the scheme from
the rest.
-/

namespace BoundKey.Url

def isLow (char : Char) : Bool :=
  char.toNat ≤ 0x20

theorem isSkipped_iff {char : Char} :
    isSkipped char = true ↔ char = '\t' ∨ char = '\n' ∨ char = '\r' := by
  rw [isSkipped, Bool.or_eq_true, Bool.or_eq_true, beq_iff_eq, beq_iff_eq,
    beq_iff_eq, or_assoc]

def counted (text : List Char) : List Char :=
  text.filter (¬ isSkipped ·)

theorem counted_append (front back : List Char) :
    counted (front ++ back) = counted front ++ counted back :=
  List.filter_append _ _

theorem counted_cons {char : Char} (counts : isSkipped char = false)
    (rest : List Char) : counted (char :: rest) = char :: counted rest := by
  rw [counted, List.filter_cons_of_pos]
  · rfl
  · simp [counts]

theorem mem_counted {char : Char} {text : List Char} :
    char ∈ counted text ↔ char ∈ text ∧ isSkipped char = false := by
  rw [counted, List.mem_filter]
  simp

/-- Both sides of a character that counts are read on their own. -/
theorem significant_append {char : Char} (high : isLow char = false)
    (front back : List Char) :
    significant (String.ofList (front ++ char :: back)) =
      counted (front.dropWhile isLow)
        ++ char :: counted (Text.trimEnd isLow back) := by
  have counts : isSkipped char = false := by
    rw [← Bool.not_eq_true]
    intro skipped
    rcases isSkipped_iff.1 skipped with rfl | rfl | rfl
    · cases high
    · cases high
    · cases high
  rw [significant, String.toList_ofList]
  change counted (Text.trimChars isLow (front ++ char :: back)) = _
  rw [Text.trimChars_append_kept high, counted_append, counted_cons counts]

/-! ### Schemes -/

structure IsScheme (written : List Char) : Prop where
  begins : ∃ first others, written = first :: others ∧ first.isAlpha = true
  chars : ∀ char ∈ written, isSchemeChar char = true

theorem IsScheme.noColon {written : List Char} (isScheme : IsScheme written) :
    ':' ∉ written := by
  intro member
  cases isScheme.chars ':' member

theorem splitScheme?_eq_some_iff {text scheme rest : List Char} :
    splitScheme? text = some (scheme, rest) ↔
    ∃ written, text = written ++ ':' :: rest ∧ IsScheme written ∧
      scheme = written.map Char.toLower := by
  constructor
  · intro found
    have parts : text.takeWhile isSchemeChar ++ text.dropWhile isSchemeChar =
        text := List.takeWhile_append_dropWhile
    unfold splitScheme? at found
    split at found
    case h_1 first others after taken dropped =>
        split at found
        case isTrue letter =>
            cases found
            rw [taken, dropped] at parts
            refine ⟨first :: others, parts.symm,
              ⟨⟨first, others, rfl, letter⟩, fun char member => ?_⟩, rfl⟩
            exact List.all_eq_true.1 List.all_takeWhile char (taken ▸ member)
        case isFalse => cases found
    case h_2 => cases found
  · rintro ⟨written, rfl, isScheme, rfl⟩
    obtain ⟨first, others, rfl, letter⟩ := isScheme.begins
    unfold splitScheme?
    rw [Text.takeWhile_stop isScheme.chars (by decide),
      Text.dropWhile_stop isScheme.chars (by decide)]
    exact if_pos letter

private theorem split_unique {separator : Char}
    {front front' back back' : List Char} (absent : separator ∉ front)
    (absent' : separator ∉ front')
    (same : front ++ separator :: back = front' ++ separator :: back') :
    front = front' ∧ back = back' := by
  have before := Text.other_of_notMem absent
  have before' := Text.other_of_notMem absent'
  have stops : decide (separator ≠ separator) = false :=
    decide_eq_false fun different => different rfl
  constructor
  · rw [← Text.takeWhile_stop before stops back, same,
      Text.takeWhile_stop before' stops]
  · have behind := Text.dropWhile_stop before stops back
    rw [same, Text.dropWhile_stop before' stops, List.cons.injEq] at behind
    exact behind.2.symm

theorem splitScheme?_rest {front back scheme rest : List Char}
    (noColon : ':' ∉ front)
    (found : splitScheme? (front ++ ':' :: back) = some (scheme, rest)) :
    rest = back := by
  obtain ⟨written, same, isScheme, -⟩ := splitScheme?_eq_some_iff.1 found
  exact (split_unique noColon isScheme.noColon same).2.symm

/-- What stands behind a colon does not matter for the scheme. -/
theorem splitScheme?_append {front back scheme rest : List Char}
    (colon : ':' ∈ front)
    (found : splitScheme? (front ++ back) = some (scheme, rest)) :
    ∃ behind, rest = behind ++ back ∧ ∀ other, splitScheme? (front ++ other) =
      some (scheme, behind ++ other) := by
  obtain ⟨written, same, isScheme, lower⟩ := splitScheme?_eq_some_iff.1 found
  obtain ⟨before, behind, rfl, noColon⟩ := List.eq_append_cons_of_mem colon
  rw [List.append_assoc, List.cons_append] at same
  obtain ⟨rfl, rfl⟩ := split_unique noColon isScheme.noColon same
  refine ⟨behind, rfl, fun other =>
    splitScheme?_eq_some_iff.2 ⟨before, ?_, isScheme, lower⟩⟩
  rw [List.append_assoc, List.cons_append]

private theorem toNat_schemeChar
    {char : Char} (may : isSchemeChar char = true) : char.toNat < 128 := by
  have code : char.val.toNat = char.toNat := rfl
  delta isSchemeChar Char.isAlphanum Char.isAlpha Char.isUpper Char.isLower
    Char.isDigit at may
  simp only [Bool.or_eq_true, Bool.and_eq_true, decide_eq_true_iff, beq_iff_eq,
    ge_iff_le, UInt32.le_iff_toNat_le, code] at may
  have bounds : 'Z'.val.toNat = 90 ∧ 'z'.val.toNat = 122 ∧ '9'.val.toNat = 57 :=
    ⟨rfl, rfl, rfl⟩
  rcases may with ((letterOrDigit | rfl) | rfl) | rfl
  · omega
  · decide
  · decide
  · decide

private theorem toLower_schemeChar
    {char : Char} (may : isSchemeChar char = true) :
    isSchemeChar char.toLower = true ∧ char.toLower.toLower = char.toLower ∧
      (char.isAlpha = true → char.toLower.isAlpha = true) := by
  have checked : ∀ code < 128, isSchemeChar (Char.ofNat code) = true →
      isSchemeChar (Char.ofNat code).toLower = true ∧
        (Char.ofNat code).toLower.toLower = (Char.ofNat code).toLower ∧
        ((Char.ofNat code).isAlpha = true →
          (Char.ofNat code).toLower.isAlpha = true) := by
    decide
  have known := checked char.toNat (toNat_schemeChar may)
  rw [Char.ofNat_toNat] at known
  exact known may

theorem schemeChar_counts {char : Char} (may : isSchemeChar char = true) :
    isLow char = false ∧ isSkipped char = false := by
  have checked : ∀ code < 128, isSchemeChar (Char.ofNat code) = true →
      isLow (Char.ofNat code) = false ∧ isSkipped (Char.ofNat code) = false := by
    decide
  have known := checked char.toNat (toNat_schemeChar may)
  rw [Char.ofNat_toNat] at known
  exact known may

theorem splitScheme?_scheme {text scheme rest : List Char}
    (found : splitScheme? text = some (scheme, rest)) :
    IsScheme scheme ∧ ∀ back, splitScheme? (scheme ++ ':' :: back) =
      some (scheme, back) := by
  obtain ⟨written, -, isScheme, rfl⟩ := splitScheme?_eq_some_iff.1 found
  have lowered : IsScheme (written.map Char.toLower) := by
    obtain ⟨first, others, rfl, letter⟩ := isScheme.begins
    refine ⟨⟨first.toLower, others.map Char.toLower, rfl,
      ?_⟩, fun char member => ?_⟩
    · exact (toLower_schemeChar (isScheme.chars first List.mem_cons_self)).2.2
        letter
    · obtain ⟨original, among, rfl⟩ := List.mem_map.1 member
      exact (toLower_schemeChar (isScheme.chars original among)).1
  refine ⟨lowered, fun back =>
    splitScheme?_eq_some_iff.2 ⟨written.map Char.toLower, rfl, lowered, ?_⟩⟩
  rw [List.map_map]
  exact List.map_congr_left fun char member =>
    ((toLower_schemeChar (isScheme.chars char member)).2.1).symm

end BoundKey.Url
