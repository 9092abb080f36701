import BoundKey.Text.Pieces

set_option autoImplicit false

/-!
Pieces of a list. Cutting follows the list from left to right, and nothing but
separators is lost on the way.
-/

namespace BoundKey.Text

variable {α : Type} [DecidableEq α] {separator : α}

theorem pieces_separator (rest : List α) :
    pieces separator (separator :: rest) = [] :: pieces separator rest := by
  rw [pieces, if_pos rfl]

theorem pieces_item {item : α} (other : item ≠ separator) (rest : List α) :
    ∃ first others, pieces separator rest = first :: others ∧
      pieces separator (item :: rest) = (item :: first) :: others := by
  induction rest generalizing item with
  | nil => exact ⟨[], [], rfl, by rw [pieces, if_neg other]; rfl⟩
  | cons next rest ih =>
      have cut : ∃ first others, pieces separator (next :: rest) =
          first :: others := by
        by_cases same : next = separator
        · rw [same, pieces_separator]
          exact ⟨[], pieces separator rest, rfl⟩
        · obtain ⟨first, others, -, whole⟩ := ih same
          exact ⟨next :: first, others, whole⟩
      obtain ⟨first, others, whole⟩ := cut
      refine ⟨first, others, whole, ?_⟩
      rw [pieces, if_neg other, whole]

/-- Two texts with a separator between them are cut each on its own. -/
theorem pieces_append (front back : List α) :
    pieces separator (front ++ separator :: back) =
      pieces separator front ++ pieces separator back := by
  induction front with
  | nil => exact pieces_separator back
  | cons item front ih =>
      rw [List.cons_append]
      by_cases same : item = separator
      · rw [same, pieces_separator, pieces_separator, ih, List.cons_append]
      · obtain ⟨first, others, found, whole⟩ := pieces_item same front
        obtain ⟨first', others', found', whole'⟩ :=
          pieces_item same (front ++ separator :: back)
        rw [ih, found, List.cons_append, List.cons.injEq] at found'
        rw [whole, whole', ← found'.1, ← found'.2, List.cons_append]

theorem pieces_of_notMem {text : List α} (absent : separator ∉ text) :
    pieces separator text = [text] := by
  induction text with
  | nil => rfl
  | cons item text ih =>
      have other : item ≠ separator := fun same =>
        absent (same ▸ List.mem_cons_self)
      rw [pieces, if_neg other, ih fun member =>
        absent (List.mem_cons_of_mem item member)]

theorem pieces_append_plain {back : List α} (absent : separator ∉ back)
    (front : List α) : ∃ others last, pieces separator front = others ++ [last] ∧
      pieces separator (front ++ back) = others ++ [last ++ back] := by
  induction front with
  | nil => exact ⟨[], [], rfl, pieces_of_notMem absent⟩
  | cons item front ih =>
      obtain ⟨others, last, before, after⟩ := ih
      rw [List.cons_append]
      by_cases same : item = separator
      · rw [same, pieces_separator, pieces_separator, before, after]
        exact ⟨[] :: others, last, rfl, rfl⟩
      · obtain ⟨first, rest, found, whole⟩ := pieces_item same front
        obtain ⟨first', rest', found', whole'⟩ := pieces_item same (front ++ back)
        rw [whole, whole']
        rw [before] at found
        rw [after] at found'
        cases others with
        | nil =>
            rw [List.nil_append, List.cons.injEq] at found found'
            exact ⟨[], item :: last, by rw [← found.1, ← found.2]; rfl, by
              rw [← found'.1, ← found'.2]; rfl⟩
        | cons first'' others =>
            rw [List.cons_append, List.cons.injEq] at found found'
            exact ⟨(item :: first'') :: others,
              last, by rw [← found.1, ← found.2]; rfl,
              by rw [← found'.1, ← found'.2]; rfl⟩

theorem mem_pieces {item : α} (other : item ≠ separator) {text : List α}
    (member : item ∈ text) : ∃ piece ∈ pieces separator text, item ∈ piece := by
  obtain ⟨front, back, rfl⟩ := List.append_of_mem member
  induction front with
  | nil =>
      obtain ⟨first, others, -, whole⟩ := pieces_item other back
      rw [List.nil_append, whole]
      exact ⟨item :: first, List.mem_cons_self, List.mem_cons_self⟩
  | cons next front ih =>
      obtain ⟨piece, among, inside⟩ :=
        ih (List.mem_append_right front List.mem_cons_self)
      rw [List.cons_append]
      by_cases same : next = separator
      · rw [same, pieces_separator]
        exact ⟨piece, List.mem_cons_of_mem [] among, inside⟩
      · obtain ⟨first, others, found, whole⟩ :=
          pieces_item same (front ++ item :: back)
        rw [whole]
        rw [found] at among
        rcases List.mem_cons.1 among with here | behind
        · exact ⟨next :: first, List.mem_cons_self,
            List.mem_cons_of_mem next (here ▸ inside)⟩
        · exact ⟨piece, List.mem_cons_of_mem _ behind, inside⟩

omit [DecidableEq α] in
theorem mem_joined {item : α} {piece : List α} {parts : List (List α)}
    (among : piece ∈ parts) (inside : item ∈ piece) :
    item ∈ joined separator parts := by
  induction parts with
  | nil => cases among
  | cons first rest ih =>
      cases rest with
      | nil =>
          rw [List.mem_singleton.1 among] at inside
          exact inside
      | cons second rest =>
          change item ∈ first ++ separator :: joined separator (second :: rest)
          rcases List.mem_cons.1 among with here | behind
          · exact List.mem_append_left _ (here ▸ inside)
          · exact List.mem_append_right first
              (List.mem_cons_of_mem separator (ih behind))

end BoundKey.Text
