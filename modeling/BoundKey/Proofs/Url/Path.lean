import BoundKey.Proofs.Text.Pieces
import BoundKey.Proofs.Url.Host
import BoundKey.Url.Path

set_option autoImplicit false

/-!
Drives in paths. Once a path has begun with the letter of a drive, no later
segment takes it back, so a path without a drive has none in a part of it
either.
-/

namespace BoundKey.Url.Path

def step (isFile : Bool) (path : Path) (segment : List Char) : Path :=
  if isDoubleDot segment then path.up
  else if isDot segment then path else path.push isFile segment

theorem up_hasDrive (path : Path) : path.up.hasDrive = path.hasDrive := by
  unfold up
  split
  · split <;> rfl
  · rfl

theorem push_hasDrive_of_true (isFile : Bool) {path : Path}
    (drive : path.hasDrive = true) (segment : List Char) :
    (path.push isFile segment).hasDrive = true := by
  unfold push
  split
  · split
    · rfl
    · exact drive
  · exact drive

theorem push_hasDrive_of_plain (isFile : Bool) (path : Path)
    {segment : List Char} (plain : isDrive segment = false) :
    (path.push isFile segment).hasDrive = path.hasDrive := by
  unfold push
  split
  · rw [if_neg]
    rw [plain]
    exact fun both => Bool.false_ne_true both.2
  · rfl

theorem step_hasDrive_of_true (isFile : Bool) {path : Path}
    (drive : path.hasDrive = true) (segment : List Char) :
    (path.step isFile segment).hasDrive = true := by
  unfold step
  split
  · rw [up_hasDrive, drive]
  · split
    · exact drive
    · exact push_hasDrive_of_true isFile drive segment

theorem step_hasDrive_of_plain (isFile : Bool) (path : Path)
    {segment : List Char} (plain : isDrive segment = false) :
    (path.step isFile segment).hasDrive = path.hasDrive := by
  unfold step
  split
  · exact up_hasDrive path
  · split
    · rfl
    · exact push_hasDrive_of_plain isFile path plain

theorem foldl_step_hasDrive_of_true (isFile : Bool) {path : Path}
    (drive : path.hasDrive = true)
    (segments : List (List Char)) :
    (segments.foldl (step isFile) path).hasDrive = true := by
  induction segments generalizing path with
  | nil => exact drive
  | cons segment segments ih =>
      exact ih (step_hasDrive_of_true isFile drive segment)

theorem walk_hasDrive (isFile : Bool) (path : Path)
    (segments : List (List Char)) :
    (walk isFile path segments).hasDrive =
      (segments.foldl (step isFile) path).hasDrive := by
  induction segments generalizing path with
  | nil => rfl
  | cons segment rest ih =>
      rw [List.foldl_cons]
      cases rest with
      | nil =>
          let moved := path.step isFile segment
          change (if (isDoubleDot segment || isDot segment) = true
            then { moved with segments := moved.segments ++ [[]] }
              else moved).hasDrive = moved.hasDrive
          split <;> rfl
      | cons next rest => exact ih (path.step isFile segment)

/-! ### A part of a path -/

private def stroked (text : List Char) : List Char :=
  text.map fun char => if char = '\\' then '/' else char

private theorem ofText_hasDrive (text : List Char) :
    (ofText true true text).hasDrive =
    (((Text.pieces '/' (stroked text)).map (encode .path)).foldl (step true)
      ⟨[], false⟩).hasDrive := by
  rw [← walk_hasDrive, ofText]
  simp only [true_and]
  rfl

/-- A path has the drive of each beginning of it that ends at a stroke. -/
theorem ofText_hasDrive_append {front back : List Char}
    (cut : back = [] ∨ ∃ rest, back = '/' :: rest)
    (drive : (ofText true true (front ++ ['/'])).hasDrive = true) :
    (ofText true true (front ++ back)).hasDrive = true := by
  rw [ofText_hasDrive] at drive ⊢
  have first : stroked (front ++ ['/']) = stroked front ++ '/' :: [] :=
    List.map_append
  rw [first, Text.pieces_append, List.map_append, List.foldl_append] at drive
  change (step true _ []).hasDrive = true at drive
  rw [step_hasDrive_of_plain true _ rfl] at drive
  rcases cut with rfl | ⟨rest, rfl⟩
  · rw [List.append_nil]
    exact drive
  · have second : stroked (front ++ '/' :: rest) =
        stroked front ++ '/' :: stroked rest := List.map_append
    rw [second, Text.pieces_append, List.map_append, List.foldl_append]
    exact foldl_step_hasDrive_of_true true drive _

private theorem not_isDrive_low {segment controls : List Char}
    (some : controls ≠ []) (low : ∀ char ∈ controls, char.toNat ≤ 32) :
    isDrive (encode .path (segment ++ controls)) = false := by
  obtain ⟨first, rest, rfl⟩ := List.exists_cons_of_ne_nil some
  have firstLow := low first List.mem_cons_self
  have encoded : Part.path.encodes first = true := by
    have checked : ∀ code ≤ 32, Part.path.encodes (Char.ofNat code) =
        true := by decide
    have := checked first.toNat firstLow
    rwa [Char.ofNat_toNat] at this
  have long : 3 ≤ (encode .path (segment ++ first :: rest)).length := by
    rw [encode, List.flatMap_append, List.length_append, List.flatMap_cons,
      if_pos encoded, Utf8.utf8EncodeChar_ascii (by omega), List.length_append]
    change 3 ≤ _ + (3 + _)
    omega
  unfold isDrive
  split
  case h_1 same =>
      rw [same, List.length_cons, List.length_singleton] at long
      omega
  case h_2 => rfl

theorem ofText_hasDrive_low {front controls : List Char} (some : controls ≠ [])
    (low : ∀ char ∈ controls, char.toNat ≤ 32)
    (drive : (ofText true true (front ++ controls ++ ['/'])).hasDrive = true) :
    (ofText true true front).hasDrive = true := by
  have bare := ofText_hasDrive_append (.inl rfl) drive
  rw [List.append_nil] at bare
  rw [ofText_hasDrive] at bare ⊢
  have absent : ∀ sign : Char, 32 < sign.toNat → sign ∉ controls := by
    intro sign beyond member
    have := low sign member
    omega
  have unchanged : stroked (front ++ controls) = stroked front ++ controls := by
    have same : ∀ char ∈ controls,
        (if char = '\\' then '/' else char) = id char := by
      intro char member
      rw [if_neg]
      · rfl
      · rintro rfl
        exact absent '\\' (by decide) member
    rw [stroked, stroked, List.map_append, List.map_congr_left same, List.map_id]
  obtain ⟨others, last, before, after⟩ :=
    Text.pieces_append_plain (absent '/' (by decide)) (stroked front)
  rw [unchanged, after, List.map_append, List.foldl_append] at bare
  rw [before, List.map_append, List.foldl_append]
  change (step true _ (encode .path (last ++ controls))).hasDrive = true at bare
  rw [step_hasDrive_of_plain true _ (not_isDrive_low some low)] at bare
  exact step_hasDrive_of_true true bare _

end BoundKey.Url.Path
