import BoundKey.Unicode.Composition

set_option autoImplicit false

/-!
Controls and composition. No character that is taken apart is a control or a
blank, and none is made of one, so the composed form of a text still has every
control and every blank of the text.
-/

namespace BoundKey.Unicode

/-! ### The table of decompositions -/

namespace Decomposition

def isBeyond (line : List Char) : Bool :=
  ((Text.pieces ' ' line).map Entry.read).all fun entry =>
    32 < entry.code && entry.parts.all (32 < ·)

-- A line is compared with its spelling and not unfolded: the kernel takes text
-- apart slowly, but knows its characters.
private theorem isBeyond_cons {line : String} {spelling : List Char}
    {rest : List String} (spelled : line = String.ofList spelling)
    (here : isBeyond spelling = true)
    (behind : ∀ other ∈ rest, isBeyond other.toList = true) :
    ∀ other ∈ line :: rest, isBeyond other.toList = true := by
  intro other member
  rcases List.mem_cons.1 member with first | later
  · rw [first, spelled, String.toList_ofList]
    exact here
  · exact behind other later

private theorem lines_beyond : ∀ line ∈ lines, isBeyond line.toList = true := by
  unfold lines
  repeat' refine isBeyond_cons rfl (by decide +kernel) ?_
  exact fun _ member => absurd member List.not_mem_nil

theorem entries_beyond {entry : Entry} (listed : entry ∈ entries) :
    32 < entry.code ∧ ∀ part ∈ entry.parts, 32 < part := by
  obtain ⟨token, among, rfl⟩ := List.mem_map.1 listed
  obtain ⟨line, line_mem, inside⟩ := List.mem_flatMap.1 among
  have beyond := List.all_eq_true.1 (lines_beyond line line_mem)
    _ (List.mem_map_of_mem inside)
  rw [Bool.and_eq_true, decide_eq_true_iff, List.all_eq_true] at beyond
  exact ⟨beyond.1, fun part member => of_decide_eq_true (beyond.2 part member)⟩

theorem parts?_low {code : Nat} (low : code ≤ 32) : parts? code = none := by
  have absent : entries.find? (·.code == code) = none := by
    rw [List.find?_eq_none]
    intro entry listed same
    have beyond := (entries_beyond listed).1
    rw [beq_iff_eq] at same
    omega
  rw [parts?, absent]
  rfl

theorem composed?_low {left right : Nat} (low : left ≤ 32 ∨ right ≤ 32) :
    composed? left right = none := by
  have absent :
      (entries.find? fun entry =>
        entry.composes && entry.parts == [left, right]) = none := by
    rw [List.find?_eq_none]
    intro entry listed both
    have beyond := (entries_beyond listed).2
    rw [Bool.and_eq_true, beq_iff_eq] at both
    rw [both.2] at beyond
    have first := beyond left List.mem_cons_self
    have second := beyond right (List.mem_cons_of_mem left List.mem_cons_self)
    omega
  rw [composed?, absent]
  rfl

end Decomposition

namespace Composition

/-! ### Taking apart -/

-- The equations that Lean derives for `expand` would unfold the table, so it is
-- opened by hand.
private theorem expand_succ (nesting code : Nat) : expand (nesting + 1) code =
    match syllableParts? code with
    | some parts => parts
    | none =>
      match Decomposition.parts? code with
      | some parts => parts.flatMap (expand nesting)
      | none => [code] := by
  delta expand
  rfl

theorem expand_low {code : Nat} (low : code ≤ 32) (nesting : Nat) :
    expand nesting code = [code] := by
  cases nesting with
  | zero =>
      delta expand
      rfl
  | succ nesting =>
      have noSyllable : syllableParts? code = none := by
        rw [syllableParts?, if_neg]
        unfold firstSyllable
        omega
      rw [expand_succ, noSyllable, Decomposition.parts?_low low]

theorem mem_settle {item code : Nat} {codes : List Nat} :
    item ∈ settle code codes ↔ item = code ∨ item ∈ codes := by
  induction codes with
  | nil => rw [settle, List.mem_singleton, or_iff_left List.not_mem_nil]
  | cons next rest ih =>
      rw [settle]
      split
      · rw [List.mem_cons, ih, List.mem_cons]
        exact or_left_comm
      · rw [List.mem_cons]

theorem mem_reorder {item : Nat} {codes : List Nat} :
    item ∈ reorder codes ↔ item ∈ codes := by
  induction codes with
  | nil => rfl
  | cons code codes ih =>
      change item ∈ settle code (reorder codes) ↔ _
      rw [mem_settle, ih, List.mem_cons]

theorem mem_decompose {code : Nat} (low : code ≤ 32) {codes : List Nat}
    (member : code ∈ codes) : code ∈ decompose codes := by
  rw [decompose, mem_reorder, List.mem_flatMap]
  refine ⟨code, member, ?_⟩
  rw [expand_low low]
  exact List.mem_singleton_self code

/-! ### Putting together -/

theorem pair?_low {left right : Nat} (low : left ≤ 32 ∨ right ≤ 32) :
    pair? left right = none := by
  have noSyllable : syllable? left right = none := by
    unfold syllable? firstLead firstVowel firstSyllable beforeTrail
    rw [if_neg (by omega), if_neg (by omega)]
  rw [pair?, noSyllable, Decomposition.composed?_low low]
  rfl

theorem Partly.mem_codes {item : Nat} {partly : Partly} :
    item ∈ partly.codes ↔ item ∈ partly.done ∨ partly.base = some item ∨
      item ∈ partly.marks := by
  rw [codes, List.mem_append, List.mem_append, List.mem_reverse,
    List.mem_reverse, Option.mem_toList, or_assoc]

theorem Partly.mem_add {item : Nat} (low : item ≤ 32)
    {partly : Partly} {code : Nat}
    (member : item ∈ partly.codes ∨ item = code) :
    item ∈ (partly.add code).codes := by
  rw [add]
  split
  case h_1 together joined =>
      -- A base that is put together with something is no control, and neither
      -- is what is put to it.
      have found : partly.base.bind (pair? · code) = some together := by
        split at joined
        · exact joined
        · cases joined
      obtain ⟨base, present, made⟩ := Option.bind_eq_some_iff.1 found
      have otherBase : item ≠ base := by
        rintro rfl
        rw [pair?_low (.inl low)] at made
        cases made
      have otherCode : item ≠ code := by
        rintro rfl
        rw [pair?_low (.inr low)] at made
        cases made
      rw [mem_codes]
      rcases mem_codes.1
        (member.resolve_right otherCode) with inDone | isBase | inMarks
      · exact .inl inDone
      · rw [present, Option.some.injEq] at isBase
        exact absurd isBase.symm otherBase
      · exact .inr (.inr inMarks)
  case h_2 =>
      split
      · rw [mem_codes, List.mem_reverse, Option.some.injEq]
        exact member.imp_right fun same => .inl same.symm
      · rw [mem_codes, List.mem_cons]
        rcases member with inside | same
        · exact (mem_codes.1 inside).imp_right (Or.imp_right .inr)
        · exact .inr (.inr (.inl same))

theorem Partly.mem_foldl_add {item : Nat} (low : item ≤ 32) {codes : List Nat}
    {partly : Partly} (member : item ∈ partly.codes ∨ item ∈ codes) :
    item ∈ (codes.foldl Partly.add partly).codes := by
  induction codes generalizing partly with
  | nil => exact member.resolve_right List.not_mem_nil
  | cons code codes ih =>
      rw [List.foldl_cons]
      apply ih
      rw [List.mem_cons, ← or_assoc] at member
      exact member.imp_left (mem_add low)

/-- Composition keeps controls and blanks. -/
theorem mem_compose {code : Nat} (low : code ≤ 32) {codes : List Nat}
    (member : code ∈ codes) : code ∈ compose codes :=
  Partly.mem_foldl_add low (.inr (mem_decompose low member))

end Composition

end BoundKey.Unicode
