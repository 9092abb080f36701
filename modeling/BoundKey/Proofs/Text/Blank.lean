import BoundKey.Text.Blank
import Mathlib.Data.List.TakeWhile

set_option autoImplicit false

/-!
Trimming and splitting. A text is cut at the first character that is not kept, a
text whose ends are not of the class that is dropped is trimmed to itself, and
what is split off a text is put together again to the text.
-/

namespace BoundKey.Text

/-! ### Stops -/

section Stops

variable {α : Type} {keeps : α → Bool} {front : List α} {stop : α}

theorem kept_or_stop (keeps : α → Bool) (items : List α) :
    (∀ item ∈ items, keeps item = true) ∨
    ∃ front stop back, items = front ++ stop :: back ∧
      (∀ item ∈ front, keeps item = true) ∧ keeps stop = false := by
  induction items with
  | nil => exact .inl fun _ member => absurd member List.not_mem_nil
  | cons first items ih =>
      cases kept : keeps first with
      | false =>
          exact .inr ⟨[], first, items,
            rfl, fun _ member => absurd member List.not_mem_nil, kept⟩
      | true =>
          rcases ih with whole | ⟨front, stop, back, rfl, before, stops⟩
          · exact .inl (List.forall_mem_cons.2 ⟨kept, whole⟩)
          · exact .inr ⟨first :: front, stop, back, rfl,
              List.forall_mem_cons.2 ⟨kept, before⟩, stops⟩

theorem takeWhile_stop (before : ∀ item ∈ front, keeps item = true)
    (stops : keeps stop = false) (back : List α) :
    (front ++ stop :: back).takeWhile keeps = front := by
  rw [List.takeWhile_append_of_pos before,
    List.takeWhile_cons_of_neg (ne_true_of_eq_false stops), List.append_nil]

theorem dropWhile_stop (before : ∀ item ∈ front, keeps item = true)
    (stops : keeps stop = false) (back : List α) :
    (front ++ stop :: back).dropWhile keeps = stop :: back := by
  rw [List.dropWhile_append_of_pos before,
    List.dropWhile_cons_of_neg (ne_true_of_eq_false stops)]

theorem takeWhile_append_stop (stops : keeps stop = false) (front back : List α) :
    (front ++ stop :: back).takeWhile keeps = front.takeWhile keeps := by
  rcases kept_or_stop keeps front with whole | ⟨before, first, behind, rfl,
    kept, stopsFirst⟩
  · rw [takeWhile_stop whole stops, List.takeWhile_eq_self_iff.2 whole]
  · rw [List.append_assoc, List.cons_append, takeWhile_stop kept stopsFirst,
      takeWhile_stop kept stopsFirst]

theorem dropWhile_append_stop (stops : keeps stop = false) (front back : List α) :
    (front ++ stop :: back).dropWhile keeps =
      front.dropWhile keeps ++ stop :: back := by
  rcases kept_or_stop keeps front with whole | ⟨before, first, behind, rfl,
    kept, stopsFirst⟩
  · rw [dropWhile_stop whole stops, List.dropWhile_eq_nil_iff.2 whole,
      List.nil_append]
  · rw [List.append_assoc, List.cons_append, dropWhile_stop kept stopsFirst,
      dropWhile_stop kept stopsFirst, List.cons_append]

theorem cut_of_head? {back : List α} (kept : ∀ item ∈ front, keeps item = true)
    (stops : ∀ item, back.head? = some item → keeps item = false) :
    (front ++ back).takeWhile keeps = front ∧
      (front ++ back).dropWhile keeps = back := by
  cases back with
  | nil =>
      rw [List.append_nil, List.takeWhile_eq_self_iff.2 kept,
        List.dropWhile_eq_nil_iff.2 kept]
      exact ⟨rfl, rfl⟩
  | cons stop rest =>
      exact ⟨takeWhile_stop kept (stops stop rfl) rest,
        dropWhile_stop kept (stops stop rfl) rest⟩

end Stops

theorem other_of_notMem {separator : Char} {text : List Char}
    (absent : separator ∉ text) :
    ∀ char ∈ text, decide (char ≠ separator) = true := by
  intro char member
  rw [decide_eq_true_iff]
  rintro rfl
  exact absent member

/-! ### Trimming -/

def trimEnd (drops : Char → Bool) (chars : List Char) : List Char :=
  (chars.reverse.dropWhile drops).reverse

/-- A character that is kept parts what is trimmed on its left from what is
trimmed on its right. -/
theorem trimChars_append_kept {drops : Char → Bool} {char : Char}
    (kept : drops char = false) (front back : List Char) :
    trimChars drops (front ++ char :: back) =
      front.dropWhile drops ++ char :: trimEnd drops back := by
  have reversed : (front.dropWhile drops ++ char :: back).reverse =
      back.reverse ++ char :: (front.dropWhile drops).reverse := by
    rw [List.reverse_append, List.reverse_cons, List.append_assoc,
      List.singleton_append]
  rw [trimChars, dropWhile_append_stop kept, reversed,
    dropWhile_append_stop kept, List.reverse_append,
    List.reverse_cons, List.reverse_reverse, List.append_assoc,
    List.singleton_append, trimEnd]

theorem trimEnd_append_kept {drops : Char → Bool} {char : Char}
    (kept : drops char = false) (front back : List Char) :
    trimEnd drops (front ++ char :: back) =
      front ++ char :: trimEnd drops back := by
  have reversed : (front ++ char :: back).reverse =
      back.reverse ++ char :: front.reverse := by
    rw [List.reverse_append, List.reverse_cons, List.append_assoc,
      List.singleton_append]
  rw [trimEnd, reversed, dropWhile_append_stop kept, List.reverse_append,
    List.reverse_cons, List.reverse_reverse,
    List.append_assoc, List.singleton_append, trimEnd]

theorem trimEnd_append (drops : Char → Bool) (chars : List Char) :
    ∃ dropped, chars = trimEnd drops chars ++ dropped ∧
      ∀ char ∈ dropped, drops char = true := by
  refine ⟨(chars.reverse.takeWhile drops).reverse, ?_, fun char member => ?_⟩
  · rw [trimEnd, ← List.reverse_append, List.takeWhile_append_dropWhile,
      List.reverse_reverse]
  · exact List.all_eq_true.1 List.all_takeWhile char (List.mem_reverse.1 member)

theorem trimEnd_of_kept {drops : Char → Bool} {chars : List Char}
    (last : ∀ char, chars.getLast? = some char → drops char = false) :
    trimEnd drops chars = chars := by
  rw [trimEnd]
  cases reversed : chars.reverse with
  | nil => rw [List.reverse_eq_nil_iff.1 reversed]; rfl
  | cons char rest =>
      have kept : drops char = false := by
        apply last char
        rw [← List.head?_reverse, reversed]
        rfl
      rw [List.dropWhile_cons_of_neg (ne_true_of_eq_false kept), ← reversed,
        List.reverse_reverse]

theorem trimEnd_last {drops : Char → Bool} {chars : List Char} {char : Char}
    (last : (trimEnd drops chars).getLast? = some char) : drops char = false := by
  rw [trimEnd, List.getLast?_reverse] at last
  have kept := List.head?_dropWhile_not drops chars.reverse
  rw [last] at kept
  exact kept

private theorem dropWhile_of_head {drops : Char → Bool} {chars : List Char}
    (kept : ∀ char ∈ chars.head?, drops char = false) :
    chars.dropWhile drops = chars := by
  cases chars with
  | nil => rfl
  | cons char rest =>
      rw [List.dropWhile_cons, kept char rfl, if_neg Bool.false_ne_true]

theorem trimChars_of_kept {drops : Char → Bool} {chars : List Char}
    (first : ∀ char ∈ chars.head?, drops char = false)
    (last : ∀ char ∈ chars.getLast?, drops char = false) :
    trimChars drops chars = chars := by
  have reversed : ∀ char ∈ chars.reverse.head?, drops char = false := by
    rw [List.head?_reverse]
    exact last
  rw [trimChars, dropWhile_of_head first, dropWhile_of_head reversed,
    List.reverse_reverse]

theorem trimChars_append_dropped {drops : Char → Bool} {chars tail : List Char}
    {char : Char} (listed : char ∈ chars)
    (kept : drops char = false) (dropped : ∀ char ∈ tail, drops char = true) :
    trimChars drops (chars ++ tail) = trimChars drops chars := by
  obtain ⟨front, back, whole⟩ := List.append_of_mem listed
  have sameEnd : trimEnd drops (back ++ tail) = trimEnd drops back := by
    have before : ∀ char ∈ tail.reverse, drops char = true := fun char member =>
      dropped char (List.mem_reverse.1 member)
    rw [trimEnd, List.reverse_append,
      List.dropWhile_append_of_pos before, trimEnd]
  rw [whole, List.append_assoc, List.cons_append, trimChars_append_kept kept,
    sameEnd, trimChars_append_kept kept]

theorem trimChars_append (drops : Char → Bool) (chars : List Char) :
    ∃ before after, chars = before ++ trimChars drops chars ++ after ∧
      (∀ char ∈ before, drops char = true) ∧
      ∀ char ∈ after, drops char = true := by
  obtain ⟨after, whole, dropped⟩ := trimEnd_append drops (chars.dropWhile drops)
  refine ⟨chars.takeWhile drops, after, ?_,
    List.all_eq_true.1 List.all_takeWhile, dropped⟩
  calc chars = chars.takeWhile drops ++ chars.dropWhile drops :=
    List.takeWhile_append_dropWhile.symm
    _ = chars.takeWhile drops ++ (trimEnd drops (chars.dropWhile drops)
        ++ after) := by rw [← whole]
    _ = chars.takeWhile drops ++ trimChars drops chars ++ after :=
      (List.append_assoc _ _ _).symm

theorem trimChars_last {drops : Char → Bool} {chars : List Char} {char : Char}
    (last : (trimChars drops chars).getLast? = some char) : drops char = false :=
  trimEnd_last last

theorem trimChars_first {drops : Char → Bool} {chars : List Char} {char : Char}
    (first : (trimChars drops chars).head? = some char) : drops char = false := by
  have kept := List.head?_dropWhile_not drops chars
  obtain ⟨dropped, whole, _⟩ := trimEnd_append drops (chars.dropWhile drops)
  change (trimEnd drops (chars.dropWhile drops)).head? = some char at first
  generalize trimEnd drops (chars.dropWhile drops) = trimmed at whole first
  rw [whole, List.head?_append, first, Option.some_or] at kept
  exact kept

theorem trimChars_around {drops : Char → Bool} {before chars after : List Char}
    (droppedBefore : ∀ char ∈ before, drops char = true)
    (droppedAfter : ∀ char ∈ after, drops char = true) :
    trimChars drops (before ++ chars ++ after) = trimChars drops chars := by
  have front : trimChars drops (before ++ (chars ++ after)) =
      trimChars drops (chars ++ after) := by
    rw [trimChars, List.dropWhile_append_of_pos droppedBefore, trimChars]
  rw [List.append_assoc, front]
  rcases kept_or_stop drops chars with whole | ⟨dropped, kept,
    rest, rfl, _, stops⟩
  · have nothing {all : List Char} (drop : ∀ char ∈ all, drops char = true) :
        trimChars drops all = [] := by
      rw [trimChars, List.dropWhile_eq_nil_iff.2 drop]
      rfl
    rw [nothing whole, nothing (List.forall_mem_append.2 ⟨whole, droppedAfter⟩)]
  · exact trimChars_append_dropped
      (List.mem_append_right dropped List.mem_cons_self) stops droppedAfter

/-! ### Splitting -/

theorem eq_of_splitOnce {pattern chars before after : List Char}
    (found : splitOnce pattern chars = some (before, after)) :
    chars = before ++ pattern ++ after := by
  induction chars generalizing before with
  | nil =>
      rw [splitOnce] at found
      split at found
      case isTrue empty =>
          cases found
          rw [List.isEmpty_iff.1 empty]
          rfl
      case isFalse => cases found
  | cons char chars ih =>
      rw [splitOnce] at found
      split at found
      case isTrue here =>
          obtain ⟨rest, same⟩ := List.isPrefixOf_iff_prefix.1 here
          cases found
          rw [← same, List.drop_left, List.nil_append]
      case isFalse =>
          obtain ⟨⟨before, after⟩, behind, parts⟩ :=
            Option.map_eq_some_iff.1 found
          cases parts
          rw [ih behind]
          rfl

theorem splitOnce_eq_some_iff {pattern chars before after : List Char} :
    splitOnce pattern chars = some (before, after) ↔
      chars = before ++ pattern ++ after ∧
      ∀ earlier later, chars = earlier ++ pattern ++ later →
        before.length ≤ earlier.length := by
  constructor
  · intro found
    refine ⟨eq_of_splitOnce found, ?_⟩
    induction chars generalizing before with
    | nil =>
        rw [splitOnce] at found
        split at found
        · cases found
          intro earlier later _
          exact Nat.zero_le _
        · cases found
    | cons char chars ih =>
        rw [splitOnce] at found
        split at found
        · cases found
          intro earlier later _
          exact Nat.zero_le _
        · next notHere =>
            obtain ⟨⟨front, back⟩, behind, parts⟩ :=
              Option.map_eq_some_iff.1 found
            cases parts
            intro earlier later same
            cases earlier with
            | nil =>
                rw [List.nil_append] at same
                exact absurd (List.isPrefixOf_iff_prefix.2 ⟨later, same.symm⟩)
                  notHere
            | cons first earlier =>
                rw [List.cons_append, List.cons_append, List.cons.injEq] at same
                exact Nat.succ_le_succ (ih behind earlier later same.2)
  · rintro ⟨whole, first⟩
    induction chars generalizing before with
    | nil =>
        have empty : before = [] ∧ pattern = [] ∧ after = [] := by
          simpa [and_assoc] using whole.symm
        obtain ⟨rfl, rfl, rfl⟩ := empty
        rfl
    | cons char chars ih =>
        rw [splitOnce]
        by_cases here : pattern.isPrefixOf (char :: chars) = true
        · obtain ⟨later, same⟩ := List.isPrefixOf_iff_prefix.1 here
          have least := first [] later (by rw [List.nil_append, same])
          have nothing : before = [] :=
            List.eq_nil_of_length_eq_zero (Nat.le_zero.1 least)
          rw [if_pos here, whole, nothing, List.nil_append, List.drop_left]
        · rw [if_neg here]
          cases before with
          | nil =>
              rw [List.nil_append] at whole
              exact absurd (List.isPrefixOf_iff_prefix.2 ⟨after, whole.symm⟩) here
          | cons other before =>
              rw [List.cons_append, List.cons_append, List.cons.injEq] at whole
              have found := ih whole.2 fun earlier later same => by
                have least := first (char :: earlier) later
                  (by rw [same, List.cons_append, List.cons_append])
                exact Nat.le_of_succ_le_succ least
              rw [found, whole.1]
              rfl

/-- A text is split exactly if the pattern stands somewhere in it. -/
theorem isSome_splitOnce_iff {pattern chars : List Char} :
    (splitOnce pattern chars).isSome = true ↔ pattern <:+: chars := by
  constructor
  · intro found
    obtain ⟨⟨before, after⟩, parts⟩ := Option.isSome_iff_exists.1 found
    exact ⟨before, after, (eq_of_splitOnce parts).symm⟩
  · intro occurs
    induction chars with
    | nil =>
        rw [List.infix_nil.1 occurs]
        rfl
    | cons char chars ih =>
        rw [splitOnce]
        split
        · rfl
        · next notHere =>
            rw [Option.isSome_map]
            refine ih ((List.infix_cons_iff.1 occurs).resolve_left fun here => ?_)
            exact notHere (List.isPrefixOf_iff_prefix.2 here)

theorem splitOnce_of_notMem {separator : Char} {chars : List Char}
    (absent : separator ∉ chars) : splitOnce [separator] chars = none := by
  cases found : splitOnce [separator] chars with
  | none => rfl
  | some parts =>
      have whole := eq_of_splitOnce found
      rw [whole] at absent
      exact absurd (List.mem_append_left
        _ (List.mem_append_right _ (List.mem_singleton_self separator))) absent

theorem splitOnce_singleton {separator : Char} {front : List Char}
    (absent : separator ∉ front) (rest : List Char) :
    splitOnce [separator] (front ++ separator :: rest) = some (front, rest) := by
  induction front with
  | nil =>
      have found : [separator].isPrefixOf (separator :: rest) = true := by
        rw [List.isPrefixOf_cons_cons_self]
        rfl
      rw [List.nil_append, splitOnce, if_pos found]
      rfl
  | cons char front ih =>
      have other : separator ≠ char := fun same =>
        absent (same ▸ List.mem_cons_self)
      have absentBehind : separator ∉ front := fun member =>
        absent (List.mem_cons_of_mem char member)
      have notHere :
          ¬ [separator].isPrefixOf (char :: (front ++ separator :: rest)) =
            true := by
        rw [List.isPrefixOf_cons_cons, Bool.and_eq_true]
        exact fun both => other (beq_iff_eq.1 both.1)
      rw [List.cons_append, splitOnce, if_neg notHere, ih absentBehind]
      rfl

theorem splitOnce_singleton_eq_some_iff
    {separator : Char} {chars before after : List Char} :
    splitOnce [separator] chars = some (before, after) ↔
      chars = before ++ separator :: after ∧ separator ∉ before := by
  constructor
  · intro found
    have whole := eq_of_splitOnce found
    rw [List.append_assoc, List.singleton_append] at whole
    refine ⟨whole, ?_⟩
    intro member
    -- Otherwise the text would be split there, further to the front.
    obtain ⟨front, back, same, absent⟩ := List.eq_append_cons_of_mem member
    rw [whole, same, List.append_assoc, List.cons_append,
      splitOnce_singleton absent, Option.some.injEq,
      Prod.mk.injEq] at found
    have shorter := congrArg List.length found.1
    rw [List.length_append, List.length_cons] at shorter
    omega
  · rintro ⟨rfl, absent⟩
    exact splitOnce_singleton absent after

end BoundKey.Text
