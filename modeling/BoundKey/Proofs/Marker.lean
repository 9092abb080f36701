import BoundKey.Marker
import Mathlib.Data.List.DropRight

set_option autoImplicit false

/-!
The window over the latest markers. A recording asks only whether the window is
full, so what it keeps rests on its length never passing the capacity. After any
calls the window holds the end of what was recorded since it was last cleared,
as much of it as the capacity allows.
-/

namespace BoundKey.MarkerWindow

variable {α : Type}

inductive Call (α : Type) where
  | record (item : α)
  | clear
  deriving DecidableEq, Repr

def Call.item? : Call α → Option α
  | .record item => some item
  | .clear => none

def apply (window : MarkerWindow α) : Call α → MarkerWindow α
  | .record item => window.record item
  | .clear => window.clear

def play (window : MarkerWindow α) (calls : List (Call α)) : MarkerWindow α :=
  calls.foldl apply window

def sinceClear (calls : List (Call α)) : List α :=
  (calls.rtakeWhile (·.item?.isSome)).filterMap Call.item?

@[simp] theorem sinceClear_concat_record (calls : List (Call α)) (item : α) :
    sinceClear (calls ++ [.record item]) = sinceClear calls ++ [item] := by
  simp [sinceClear, Call.item?]

@[simp] theorem sinceClear_concat_clear (calls : List (Call α)) :
    sinceClear (calls ++ [.clear]) = [] := by
  simp [sinceClear, Call.item?]

/-! ### One call -/

theorem length_rtake (items : List α) (count : Nat) :
    (items.rtake count).length = min count items.length := by
  rw [List.rtake, List.length_drop]
  omega

theorem rtake_of_length_le {items : List α} {count : Nat}
    (few : items.length ≤ count) : items.rtake count = items := by
  rw [List.rtake, Nat.sub_eq_zero_of_le few, List.drop_zero]

/-- Of one item less, the end of a list begins one item later. -/
theorem rtake_eq_drop_rtake {items : List α} {count : Nat}
    (many : count < items.length) :
    items.rtake count = (items.rtake (count + 1)).drop 1 := by
  have later : items.length - (count + 1) + 1 = items.length - count := by omega
  rw [List.rtake, List.rtake, List.drop_drop, later]

/-- A window that holds the end of a history. -/
structure Shows (window : MarkerWindow α) (capacity : Nat) (history : List α) :
    Prop where
  limit : window.capacity = capacity
  recorded : window.recorded = history.rtake capacity

variable {window : MarkerWindow α} {capacity : Nat} {history : List α}

theorem Shows.clear (shows : window.Shows capacity history) :
    window.clear.Shows capacity [] :=
  ⟨shows.limit, (List.rtake_nil capacity).symm⟩

/-- A recording moves the end on by one item. A window is full where the history
is as long as the capacity or longer, because it never holds more. -/
theorem Shows.record (shows : window.Shows capacity history) (item : α) :
    (window.record item).Shows capacity (history ++ [item]) := by
  have sized : window.recorded.length = min capacity history.length := by
    rw [shows.recorded, length_rtake]
  rw [MarkerWindow.record, shows.limit]
  cases capacity with
  | zero =>
      rw [if_pos rfl]
      exact ⟨shows.limit, by rw [shows.recorded, List.rtake_zero,
        List.rtake_zero]⟩
  | succ count =>
      rw [if_neg (Nat.succ_ne_zero count)]
      by_cases full : window.recorded.length = count + 1
      · have many : count < history.length := by omega
        rw [if_pos full]
        refine ⟨rfl, ?_⟩
        rw [List.rtake_concat_succ, rtake_eq_drop_rtake many, shows.recorded]
      · have few : history.length ≤ count := by omega
        rw [if_neg full]
        refine ⟨rfl, ?_⟩
        rw [List.rtake_concat_succ, rtake_of_length_le few, shows.recorded,
          rtake_of_length_le (Nat.le_succ_of_le few)]

/-! ### Any calls -/

theorem shows_play (capacity : Nat) (calls : List (Call α)) :
    ((empty capacity).play calls).Shows capacity (sinceClear calls) := by
  -- By induction from the last call on, since only later calls can undo what an
  -- earlier one did.
  induction calls using List.reverseRecOn with
  | nil => exact ⟨rfl, (List.rtake_nil capacity).symm⟩
  | append_singleton calls last ih =>
      rw [play, List.foldl_append]
      cases last with
      | clear =>
          rw [sinceClear_concat_clear]
          exact ih.clear
      | record item =>
          rw [sinceClear_concat_record]
          exact ih.record item

/-- After any calls a window holds the last of the items that were recorded
since it was last cleared: as many as the capacity, or all if there are fewer,
in the order of their recording. What it has dropped is older than all it
holds. -/
theorem keeps_latest (capacity : Nat) (calls : List (Call α)) :
    ((empty capacity).play calls).recorded =
      (sinceClear calls).rtake (min capacity (sinceClear calls).length) ∧
    ((empty capacity).play calls).recorded.length =
      min capacity (sinceClear calls).length ∧
    ((empty capacity).play calls).recorded.length ≤ capacity ∧
    ∃ dropped, sinceClear calls =
      dropped ++ ((empty capacity).play calls).recorded := by
  have shown := (shows_play capacity calls).recorded
  have sized := length_rtake (sinceClear calls) capacity
  rw [← shown] at sized
  refine ⟨?_, sized, ?_, ?_⟩
  · rw [shown]
    rcases Nat.le_total capacity (sinceClear calls).length with many | few
    · rw [Nat.min_eq_left many]
    · rw [Nat.min_eq_right few, rtake_of_length_le few,
        rtake_of_length_le (Nat.le_refl _)]
  · rw [sized]
    exact Nat.min_le_left _ _
  · rw [shown]
    exact ⟨_, (List.take_append_drop _ _).symm⟩

/-- A window of two items, filled beyond its capacity and then cleared. -/
example : ((empty 2).play [.record 1, .record 2, .record 3]).recorded = [2, 3] ∧
    ((empty 2).play [.record 1, .record 2, .record 3, .clear,
      .record 4]).recorded = [4] := by
  decide

end BoundKey.MarkerWindow
