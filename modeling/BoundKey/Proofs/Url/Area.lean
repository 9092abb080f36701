import BoundKey.Proofs.Text.Blank
import BoundKey.Proofs.Url.Path
import BoundKey.Proofs.Url.Place

set_option autoImplicit false

/-!
How far a URL's text decides its host. What stands behind a stroke that ends the
authority does not matter, unless it gives a file a drive; controls that stand
in the authority do.
-/

namespace BoundKey.Url

/-! ### Authorities with something behind them -/

theorem splitLast?_append {separator : Char} {back : List Char}
    (absent : separator ∉ back) (front : List Char) :
    splitLast? separator (front ++ back) =
      (splitLast? separator front).map fun (before, after) =>
        (before, after ++ back) := by
  have others : ∀ char ∈ back.reverse, decide (char ≠ separator) = true :=
    Text.other_of_notMem fun member => absent (List.mem_reverse.1 member)
  unfold splitLast?
  rw [List.reverse_append, List.dropWhile_append_of_pos others,
    List.takeWhile_append_of_pos others,
    List.reverse_append, List.reverse_reverse]
  cases front.reverse.dropWhile (· ≠ separator) with
  | nil => rfl
  | cons first before => rfl

private theorem splitHost_plain {text : List Char} (noColon : ':' ∉ text)
    (inBrackets : Bool) : splitHost inBrackets text = (text, []) := by
  induction text generalizing inBrackets with
  | nil => rfl
  | cons char text ih =>
      have other : char ≠ ':' := fun same => noColon (same ▸ List.mem_cons_self)
      rw [splitHost, if_neg fun both => other both.1]
      simp only [ih fun member => noColon (List.mem_cons_of_mem char member)]

theorem splitHost_append {back : List Char} (noColon : ':' ∉ back)
    (inBrackets : Bool) (front : List Char) :
    splitHost inBrackets (front ++ back) =
      if (splitHost inBrackets front).2 = [] then
        ((splitHost inBrackets front).1 ++ back, [])
      else ((splitHost inBrackets front).1,
        (splitHost inBrackets front).2 ++ back) := by
  induction front generalizing inBrackets with
  | nil => exact splitHost_plain noColon inBrackets
  | cons char front ih =>
      rw [List.cons_append, splitHost, splitHost]
      split
      · rfl
      · simp only [ih]
        generalize (if char = '[' then true else if char = ']' then false
          else inBrackets) = inside
        by_cases ending : (splitHost inside front).2 = []
        · rw [if_pos ending, if_pos ending, List.cons_append]
        · rw [if_neg ending, if_neg ending]

theorem splitHost_after {inBrackets : Bool} {text after : List Char}
    {first : Char} (found : (splitHost inBrackets text).2 = first :: after) :
    first = ':' := by
  induction text generalizing inBrackets with
  | nil => cases found
  | cons char text ih =>
      rw [splitHost] at found
      split at found
      case isTrue colon =>
          cases found
          exact colon.1
      case isFalse => exact ih found

theorem splitHost_joined (inBrackets : Bool) (text : List Char) :
    (splitHost inBrackets text).1 ++ (splitHost inBrackets text).2 = text := by
  induction text generalizing inBrackets with
  | nil => rfl
  | cons char text ih =>
      rw [splitHost]
      split
      · rfl
      · exact congrArg (char :: ·) (ih _)

theorem splitPlace_append {back : List Char} (noSign : '@' ∉ back)
    (noColon : ':' ∉ back) (area : List Char) : splitPlace (area ++ back) =
      if (splitPlace area).2 = [] then ((splitPlace area).1 ++ back, [])
      else ((splitPlace area).1, (splitPlace area).2 ++ back) := by
  have place : ((splitLast? '@' (area ++ back)).getD ([], area ++ back)).2 =
      ((splitLast? '@' area).getD ([], area)).2 ++ back := by
    rw [splitLast?_append noSign]
    cases splitLast? '@' area with
    | none => rfl
    | some parts => rfl
  unfold splitPlace
  rw [place, splitHost_append noColon]

private theorem notMem_low {controls : List Char}
    (low : ∀ char ∈ controls, char.toNat ≤ 32) {sign : Char}
    (beyond : 32 < sign.toNat) : sign ∉ controls := by
  intro member
  have := low sign member
  omega

private theorem readHost_append_low {text controls : List Char}
    {isSpecial : Bool} {host : Host}
    (found : readHost isSpecial text = .ok host) (present : text ≠ [])
    (some : controls ≠ []) (low : ∀ char ∈ controls, char.toNat ≤ 32) :
    readHost isSpecial (text ++ controls) ≠ .ok host := by
  cases isSpecial with
  | true => exact Host.ofSpecial_append_low some low text host
  | false => exact Host.ofOther_append_low found present some low

private theorem readPort_append_low {scheme controls : List Char}
    (some : controls ≠ []) (low : ∀ char ∈ controls, char.toNat ≤ 32)
    (digits : List Char) (port : Option Nat) :
    readPort scheme (digits ++ controls) ≠ .ok port := by
  have noDigits : ¬ (digits ++ controls).all Char.isDigit = true := by
    intro allDigits
    have digit := List.all_eq_true.1 allDigits
      _ (List.mem_append_right digits (List.getLast_mem some))
    have checked : ∀ code ≤ 32, (Char.ofNat code).isDigit = false := by decide
    have noDigit := checked _ (low _ (List.getLast_mem some))
    rw [Char.ofNat_toNat, digit] at noDigit
    cases noDigit
  rw [readPort, if_pos (.inl noDigits)]
  exact nofun

/-- Controls behind an authority change it, unless a path begins in front of
them. -/
theorem AreaNames.append_low_iff {scheme area controls : List Char}
    {isSpecial : Bool} {host : Host} {port : Option Nat}
    (names : AreaNames scheme isSpecial area host port) (some : controls ≠ [])
    (low : ∀ char ∈ controls, char.toNat ≤ 32) :
    AreaNames scheme isSpecial (area ++ controls) host port ↔
      '\\' ∈ (splitPlace area).2 := by
  have noSign : '@' ∉ controls := notMem_low low (by decide)
  have noColon : ':' ∉ controls := notMem_low low (by decide)
  have noBackslash : '\\' ∉ controls := notMem_low low (by decide)
  have split := splitPlace_append noSign noColon area
  cases after : (splitPlace area).2 with
  | nil =>
      rw [after, if_pos rfl] at split
      refine iff_of_false (fun again => ?_) List.not_mem_nil
      have isHost := again.isHost
      rw [split] at isHost
      exact readHost_append_low names.isHost names.present some low isHost
  | cons colon digits =>
      have isColon : colon = ':' := splitHost_after after
      have other : '\\' ≠ colon := by
        rw [isColon]
        decide
      rw [after, if_neg (List.cons_ne_nil colon digits)] at split
      have isPort := names.isPort
      rw [after, List.drop_one, List.tail_cons] at isPort
      rw [List.mem_cons, or_iff_right other]
      have rest : (splitPlace (area ++ controls)).2.drop 1 =
          digits ++ controls := by
        rw [split]
        rfl
      rcases Text.kept_or_stop (· ≠ '\\') digits with whole | ⟨front, stop,
        back, rfl, before, stops⟩
      · have noStop : '\\' ∉ digits := fun member =>
          of_decide_eq_true (whole '\\' member) rfl
        refine iff_of_false (fun again => ?_) noStop
        have plain : ∀ char ∈ digits ++ controls, decide (char ≠ '\\') = true :=
          Text.other_of_notMem fun member =>
            (List.mem_append.1 member).elim noStop noBackslash
        have isPortAgain := again.isPort
        rw [rest, List.takeWhile_eq_self_iff.2 plain] at isPortAgain
        exact readPort_append_low some low digits port isPortAgain
      · refine iff_of_true ⟨?_, ?_, ?_⟩ ?_
        · rw [split]
          exact names.present
        · rw [split]
          exact names.isHost
        · rw [rest, List.append_assoc, List.cons_append,
            Text.takeWhile_stop before stops]
          rwa [Text.takeWhile_stop before stops] at isPort
        · have isStop : stop = '\\' := by simpa using stops
          rw [isStop]
          exact List.mem_append_right front List.mem_cons_self

/-! ### Texts with strokes behind the authority -/

def IsCut (back : List Char) : Prop :=
  back = [] ∨ ∃ rest, back = '/' :: rest

private theorem takeWhile_cut {keeps : Char → Bool} (stops : keeps '/' = false)
    {back : List Char} (cut : IsCut back)
    (front : List Char) :
    (front ++ back).takeWhile keeps = front.takeWhile keeps := by
  rcases cut with rfl | ⟨rest, rfl⟩
  · rw [List.append_nil]
  · exact Text.takeWhile_append_stop stops front rest

private theorem isStroke_iff {char : Char} :
    isStroke true char = true ↔ char = '/' ∨ char = '\\' := by
  rw [isStroke, Bool.true_and, Bool.or_eq_true, beq_iff_eq, beq_iff_eq]

private theorem not_areaNames_nil {scheme : List Char} {isSpecial : Bool}
    {host : Host} {port : Option Nat} :
    ¬ AreaNames scheme isSpecial [] host port :=
  fun names => names.present rfl

private theorem special_cut_iff {scheme text back : List Char} {host : Host}
    {port : Option Nat} (noStroke : '/' ∉ text)
    (cut : IsCut back)
    (names : AreaNames scheme true (specialArea (text ++ back)) host port) :
    AreaNames scheme true (specialArea (text ++ ['/'])) host port ↔
      ∃ char ∈ text, char ≠ '\\' := by
  rcases Text.kept_or_stop (isStroke true) text with strokes | ⟨front, stop,
    behind, rfl, strokes, stops⟩
  · have nothing : specialArea (text ++ ['/']) = [] := by
      rw [specialArea, List.dropWhile_append_of_pos strokes]
      rfl
    rw [nothing]
    apply iff_of_false not_areaNames_nil
    rintro ⟨char, member, other⟩
    rcases isStroke_iff.1 (strokes char member) with rfl | same
    · exact noStroke member
    · exact other same
  · have area : ∀ {more : List Char},
        IsCut more → specialArea (front ++ stop :: behind ++ more) =
        (stop :: behind).takeWhile (¬ isStroke true ·) := by
      intro more cutMore
      rw [specialArea, List.append_assoc, List.cons_append,
        Text.dropWhile_stop strokes stops, ← List.cons_append,
        takeWhile_cut rfl cutMore]
    rw [area (.inr ⟨[], rfl⟩)]
    rw [area cut] at names
    refine iff_of_true names ⟨stop,
      List.mem_append_right front List.mem_cons_self, ?_⟩
    rintro rfl
    cases stops

private theorem mem_of_mem_splitPlace {area : List Char} {char : Char}
    (member : char ∈ (splitPlace area).1 ∨ char ∈ (splitPlace area).2) :
    char ∈ area := by
  have inPlace : char ∈ ((splitLast? '@' area).getD ([], area)).2 := by
    rw [← splitHost_joined false ((splitLast? '@' area).getD ([], area)).2,
      List.mem_append]
    exact member
  unfold splitLast? at inPlace
  split at inPlace
  · exact inPlace
  · exact List.mem_reverse.1 ((List.takeWhile_sublist _).mem
      (List.mem_reverse.1 inPlace))

private theorem areaNames_visible {scheme area : List Char} {host : Host}
    {port : Option Nat} (names : AreaNames scheme false area host port) :
    ∃ char ∈ area, char ≠ '\\' := by
  obtain ⟨first, rest, found⟩ := List.exists_cons_of_ne_nil names.present
  refine ⟨first, mem_of_mem_splitPlace (.inl (found ▸ List.mem_cons_self)), ?_⟩
  rintro rfl
  have isHost : Host.ofOther (splitPlace area).1 = .ok host := names.isHost
  have forbidden : (splitPlace area).1.any isForbidden = true := by
    rw [found, List.any_cons]
    rfl
  have noBracket : (splitPlace area).1.head? ≠ some '[' := by
    rw [found, List.head?_cons]
    simp
  rw [Host.ofOther, if_neg noBracket, if_pos forbidden] at isHost
  cases isHost

/-- A file without a drive in its path has none in a beginning of the path that
ends at a stroke. -/
private theorem noDrive_of_append {front back : List Char} (cut : IsCut back)
    (plain : (Path.ofText true true (front ++ back)).hasDrive = false) :
    (Path.ofText true true (front ++ ['/'])).hasDrive = false := by
  rw [← Bool.not_eq_true] at plain ⊢
  exact fun drive => plain (Path.ofText_hasDrive_append cut drive)

private theorem file_cut {text back : List Char} {host : Host} (cut : IsCut back)
    (names : FileNames (text ++ back) host) :
    FileNames (text ++ ['/']) host ∧ ∃ char ∈ text, char ≠ '\\' := by
  rcases Text.kept_or_stop (¬ isStroke true ·) text with whole | ⟨front, stop,
    behind, rfl, before, stops⟩
  · have area : IsFileHost text host := by
      have found := (fileNames_iff.1 names).1
      rwa [takeWhile_cut rfl cut, List.takeWhile_eq_self_iff.2 whole] at found
    refine ⟨(fileNames_stop_iff whole rfl).2 ⟨area, rfl⟩, ?_⟩
    obtain ⟨first, rest, rfl⟩ := List.exists_cons_of_ne_nil area.present
    refine ⟨first, List.mem_cons_self, ?_⟩
    rintro rfl
    cases whole '\\' List.mem_cons_self
  · rw [List.append_assoc, List.cons_append,
      fileNames_stop_iff before stops] at names
    rw [List.append_assoc, List.cons_append, fileNames_stop_iff before stops]
    obtain ⟨area, plain⟩ := names
    constructor
    · exact ⟨area, noDrive_of_append cut plain⟩
    · obtain ⟨first, rest, rfl⟩ := List.exists_cons_of_ne_nil area.present
      refine ⟨first, List.mem_cons_self, ?_⟩
      rintro rfl
      cases before '\\' List.mem_cons_self

/-- Where a host is named in front of a stroke or of the end, a stroke may stand
there, as long as there is more than backslashes. -/
theorem Leads.cut_iff {scheme text back : List Char} {host : Host}
    {port : Option Nat} (noStroke : '/' ∉ text)
    (cut : IsCut back)
    (leads : Leads scheme ('/' :: '/' :: (text ++ back)) host port) :
    Leads scheme ('/' :: '/' :: (text ++ ['/'])) host port ↔
      ∃ char ∈ text, char ≠ '\\' := by
  rw [leads_strokes_iff] at leads ⊢
  split
  case isTrue file =>
      rw [if_pos file] at leads
      obtain ⟨names, visible⟩ := file_cut cut leads.1
      exact iff_of_true ⟨names, leads.2⟩ visible
  case isFalse noFile =>
      rw [if_neg noFile] at leads
      split
      case isTrue special =>
          rw [if_pos special] at leads
          exact special_cut_iff noStroke cut leads
      case isFalse other =>
          rw [if_neg other] at leads
          have area : ∀ {more : List Char},
              IsCut more → (text ++ more).takeWhile (· ≠ '/') = text := by
            intro more cutMore
            rw [takeWhile_cut rfl cutMore]
            exact List.takeWhile_eq_self_iff.2 (Text.other_of_notMem noStroke)
          rw [area cut] at leads
          rw [area (.inr ⟨[], rfl⟩)]
          exact iff_of_true leads (areaNames_visible leads)

/-! ### Texts with controls behind the authority -/

/-- The part of an authority in which a backslash begins a path: for special
URLs everything behind the strokes at the beginning, for others what follows the
host. -/
def openPart (scheme area : List Char) : List Char :=
  if isFileScheme scheme || (defaultPort? scheme).isSome then
    area.dropWhile (· = '\\')
  else (splitPlace area).2

private theorem dropWhile_backslashes {front back : List Char} {stop : Char}
    (noStroke : '/' ∉ front)
    (strokes : ∀ char ∈ front, isStroke true char = true)
    (stops : isStroke true stop = false) :
    (front ++ stop :: back).dropWhile (· = '\\') = stop :: back := by
  refine Text.dropWhile_stop (fun char member => ?_) ?_ back
  · rcases isStroke_iff.1 (strokes char member) with rfl | same
    · exact absurd member noStroke
    · exact decide_eq_true same
  · rw [decide_eq_false_iff_not]
    rintro rfl
    cases stops

private theorem plain_low {controls : List Char}
    (low : ∀ char ∈ controls, char.toNat ≤ 32) :
    ∀ char ∈ controls, decide (¬ isStroke true char = true) = true := by
  intro char member
  rw [decide_eq_true_iff, isStroke_iff]
  rintro (rfl | rfl)
  · exact notMem_low low (by decide) member
  · exact notMem_low low (by decide) member

private theorem backslash_of_stroke {front behind : List Char} {sign : Char}
    (noStroke : '/' ∉ front ++ sign :: behind)
    (isSign : decide (¬ isStroke true sign = true) = false) : sign = '\\' := by
  have isStrokeSign : isStroke true sign = true := by simpa using isSign
  rcases isStroke_iff.1 isStrokeSign with rfl | found
  · exact absurd (List.mem_append_right front List.mem_cons_self) noStroke
  · exact found

private theorem special_low_iff {scheme text controls : List Char} {host : Host}
    {port : Option Nat} (noStroke : '/' ∉ text) (some : controls ≠ [])
    (low : ∀ char ∈ controls, char.toNat ≤ 32)
    (names : AreaNames scheme true (specialArea text) host port) :
    AreaNames scheme true (specialArea (text ++ controls ++ ['/'])) host port ↔
      '\\' ∈ (text ++ controls).dropWhile (· = '\\') := by
  have noBackslash : '\\' ∉ controls := notMem_low low (by decide)
  rcases Text.kept_or_stop (isStroke true) text with strokes | ⟨front, stop,
    behind, rfl, strokes, stops⟩
  · have nothing : specialArea text = [] := by
      rw [specialArea, List.dropWhile_eq_nil_iff.2 strokes]
      rfl
    rw [nothing] at names
    exact absurd names not_areaNames_nil
  · have noStrokeFront : '/' ∉ front := fun member =>
      noStroke (List.mem_append_left _ member)
    rw [specialArea, Text.dropWhile_stop strokes stops] at names
    rw [specialArea, List.append_assoc, List.append_assoc, List.cons_append,
      Text.dropWhile_stop strokes stops,
      List.append_assoc, List.cons_append,
      dropWhile_backslashes noStrokeFront strokes stops, ← List.cons_append,
      ← List.cons_append, ← List.append_assoc]
    rcases Text.kept_or_stop (¬ isStroke true ·)
      (stop :: behind) with whole | ⟨area, sign, after, same, before, isSign⟩
    · have absent : '\\' ∉ stop :: behind := fun member => by
        have := whole '\\' member
        revert this
        decide
      rw [List.takeWhile_eq_self_iff.2 whole] at names
      rw [Text.takeWhile_stop (List.forall_mem_append.2 ⟨whole, plain_low low⟩)
        rfl, names.append_low_iff some low]
      refine iff_of_false
        (fun member => absent (mem_of_mem_splitPlace (.inr member)))
        fun member => ?_
      exact (List.mem_append.1 member).elim absent noBackslash
    · rw [same, Text.takeWhile_stop before isSign] at names
      rw [same, List.append_assoc, List.append_assoc, List.cons_append,
        Text.takeWhile_stop before isSign]
      apply iff_of_true names
      have isBackslash : sign = '\\' := by
        have noStrokeBehind : '/' ∉ area ++ sign :: after := by
          rw [← same]
          exact fun member => noStroke (List.mem_append_right front member)
        exact backslash_of_stroke noStrokeBehind isSign
      rw [isBackslash, List.append_assoc]
      exact List.mem_append_right area List.mem_cons_self

private theorem file_low_iff {text controls : List Char} {host : Host}
    (noStroke : '/' ∉ text) (some : controls ≠ [])
    (low : ∀ char ∈ controls, char.toNat ≤ 32) (names : FileNames text host) :
    FileNames (text ++ controls ++ ['/']) host ↔
      '\\' ∈ (text ++ controls).dropWhile (· = '\\') := by
  rcases Text.kept_or_stop (¬ isStroke true ·) text with whole | ⟨front, sign,
    behind, rfl, before, isSign⟩
  · have plain : ∀ char ∈ text ++ controls,
        decide (¬ isStroke true char = true) = true :=
      List.forall_mem_append.2 ⟨whole, plain_low low⟩
    refine iff_of_false (fun again => ?_) fun member => ?_
    · have area := ((fileNames_stop_iff plain rfl).1 again).1
      exact Host.ofSpecial_append_low some low text host area.isHost
    · cases plain '\\' ((List.dropWhile_sublist _).mem member)
  · have isBackslash := backslash_of_stroke noStroke isSign
    rw [fileNames_stop_iff before isSign] at names
    obtain ⟨area, plain⟩ := names
    apply iff_of_true
    · rw [List.append_assoc, List.append_assoc, List.cons_append,
        fileNames_stop_iff before isSign, ← List.append_assoc]
      rw [← Bool.not_eq_true] at plain ⊢
      exact ⟨area, fun drive => plain (Path.ofText_hasDrive_low some low drive)⟩
    · obtain ⟨first, rest, rfl⟩ := List.exists_cons_of_ne_nil area.present
      have other : ¬ decide (first = '\\') = true := by
        rw [decide_eq_true_iff]
        rintro rfl
        cases before '\\' List.mem_cons_self
      have whole :
          (first :: rest ++ sign :: behind ++ controls).dropWhile (· = '\\') =
          first :: rest ++ sign :: behind ++ controls :=
        List.dropWhile_cons_of_neg other
      rw [whole, isBackslash]
      exact List.mem_append_left _ (List.mem_append_right _ List.mem_cons_self)

/-- Where a host is named in front of the end, controls and a stroke may stand
there exactly if a path begins in front of them. -/
theorem Leads.low_iff {scheme text controls : List Char} {host : Host}
    {port : Option Nat} (noStroke : '/' ∉ text)
    (some : controls ≠ []) (low : ∀ char ∈ controls, char.toNat ≤ 32)
    (leads : Leads scheme ('/' :: '/' :: text) host port) :
    Leads scheme ('/' :: '/' :: (text ++ controls ++ ['/'])) host port ↔
      '\\' ∈ openPart scheme (text ++ controls) := by
  rw [leads_strokes_iff] at leads ⊢
  unfold openPart
  split
  case isTrue file =>
      rw [if_pos file] at leads
      rw [file, Bool.true_or, if_pos rfl, and_iff_left leads.2]
      exact file_low_iff noStroke some low leads.1
  case isFalse noFile =>
      rw [if_neg noFile] at leads
      rw [eq_false_of_ne_true noFile, Bool.false_or]
      split
      case isTrue special =>
          rw [if_pos special] at leads
          exact special_low_iff noStroke some low leads
      case isFalse other =>
          rw [if_neg other] at leads
          have plain : ∀ char ∈ text, decide (char ≠ '/') = true :=
            Text.other_of_notMem noStroke
          have plainControls : ∀ char ∈ controls, decide (char ≠ '/') = true :=
            Text.other_of_notMem (notMem_low low (by decide))
          have area : (text ++ controls ++ ['/']).takeWhile (· ≠ '/') =
              text ++ controls :=
            Text.takeWhile_stop (List.forall_mem_append.2
              ⟨plain, plainControls⟩) (by decide) []
          have behind : '\\' ∈ (splitPlace (text ++ controls)).2 ↔
              '\\' ∈ (splitPlace text).2 := by
            rw [splitPlace_append (notMem_low low (by decide))
              (notMem_low low (by decide))]
            split
            case isTrue nothing => rw [nothing]
            case isFalse =>
              rw [List.mem_append, or_iff_left (notMem_low low (by decide))]
          rw [List.takeWhile_eq_self_iff.2 plain] at leads
          rw [area, behind]
          exact leads.append_low_iff some low

/-! ### Texts with a colon and strokes in them -/

private theorem takeWhile_colon {keeps : Char → Bool}
    (stops : keeps '/' = false) (front back : List Char) :
    (front ++ ':' :: '/' :: back).takeWhile keeps =
      (front ++ [':']).takeWhile keeps := by
  rw [← List.singleton_append, ← List.append_assoc]
  exact Text.takeWhile_append_stop stops (front ++ [':']) back

private theorem special_mark {front back : List Char} :
    specialArea (front ++ ':' :: '/' :: back) =
    (front.dropWhile (isStroke true) ++ [':']).takeWhile (¬ isStroke true ·) := by
  rw [specialArea, Text.dropWhile_append_stop (by decide), takeWhile_colon rfl]

private theorem file_mark {front back : List Char} {host : Host}
    (names : FileNames (front ++ ':' :: '/' :: '/' :: back) host) :
    FileNames (front ++ [':', '/', '/']) host := by
  have around : ∀ more, front ++ ':' :: '/' :: '/' :: more =
      (front ++ [':']) ++ '/' :: '/' :: more := fun more => by
    rw [List.append_assoc, List.singleton_append]
  have mark : IsCut ('/' :: back) := .inr ⟨back, rfl⟩
  rw [around] at names ⊢
  -- The path begins in front of the second stroke of the mark, whatever ended
  -- the host.
  rcases Text.kept_or_stop (¬ isStroke true ·)
    (front ++ [':']) with whole | ⟨kept, stop, behind, same, before, stops⟩
  · rw [fileNames_stop_iff whole rfl, ← List.nil_append ('/' :: back)] at names
    rw [fileNames_stop_iff whole rfl, ← List.nil_append ['/']]
    exact ⟨names.1, noDrive_of_append mark names.2⟩
  · have path : ∀ more, kept ++ stop :: behind ++ '/' :: '/' :: more =
        kept ++ stop :: (behind ++ ['/'] ++ '/' :: more) := by
      intro more
      simp only [List.append_assoc, List.cons_append, List.nil_append]
    rw [same, path, fileNames_stop_iff before stops] at names
    rw [same, path, fileNames_stop_iff before stops]
    exact ⟨names.1, noDrive_of_append mark names.2⟩

private theorem exists_of_append_mark
    {first second : Char} {front back rest : List Char}
    (same : front ++ ':' :: '/' :: '/' :: back = first :: second :: rest)
    (noFirst : first ≠ ':') (noSecond : second ≠ ':') :
    ∃ behind, front = first :: second :: behind ∧
      rest = behind ++ ':' :: '/' :: '/' :: back := by
  cases front with
  | nil =>
      rw [List.nil_append, List.cons.injEq] at same
      exact absurd same.1.symm noFirst
  | cons first' front =>
      cases front with
      | nil =>
          rw [List.singleton_append, List.cons.injEq, List.cons.injEq] at same
          exact absurd same.2.1.symm noSecond
      | cons second' behind =>
          rw [List.cons_append, List.cons_append, List.cons.injEq,
            List.cons.injEq] at same
          obtain ⟨rfl, rfl, rfl⟩ := same
          exact ⟨behind, rfl, rfl⟩

/-- A colon with two strokes behind it ends what decides the host. -/
theorem Leads.of_append_mark {scheme front back : List Char} {host : Host}
    {port : Option Nat}
    (leads : Leads scheme (front ++ ':' :: '/' :: '/' :: back) host port) :
    Leads scheme (front ++ [':', '/', '/']) host port := by
  have noColon : ∀ {char : Char}, isStroke true char = true → char ≠ ':' := by
    rintro char isStrokeChar rfl
    revert isStrokeChar
    decide
  unfold Leads at leads ⊢
  split
  case isTrue file =>
      rw [if_pos file] at leads
      obtain ⟨⟨first, second, rest, same, isFirst, isSecond, names⟩,
          noPort⟩ := leads
      obtain ⟨behind, rfl, rfl⟩ :=
        exists_of_append_mark same (noColon isFirst) (noColon isSecond)
      exact ⟨⟨first, second, _, rfl, isFirst, isSecond, file_mark names⟩, noPort⟩
  case isFalse noFile =>
      rw [if_neg noFile] at leads
      split
      case isTrue special =>
          rw [if_pos special, special_mark] at leads
          rw [special_mark]
          exact leads
      case isFalse other =>
          rw [if_neg other] at leads
          obtain ⟨rest, same, names⟩ := leads
          obtain ⟨behind, rfl, rfl⟩ :=
            exists_of_append_mark same (by decide) (by decide)
          refine ⟨behind ++ [':', '/', '/'], rfl, ?_⟩
          rw [takeWhile_colon (by decide)] at names ⊢
          exact names

end BoundKey.Url
