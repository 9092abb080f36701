import BoundKey.Domain.Basic
import BoundKey.Proofs.Text.Pieces
import BoundKey.Proofs.Unicode.Composition

set_option autoImplicit false

/-!
Controls in domain names. A control or a blank is followed through every step
from a text to its domain name. None of them loses it, and a label in which it
would have to be a digit cannot be read, so a text with one is no domain name.
-/

namespace BoundKey.Domain

open Unicode

/-! ### Labels in ASCII -/

namespace Punycode

theorem value?_low {code : Nat} (low : code ≤ 32) : value? code = none := by
  rw [value?, if_neg (by omega), if_neg (by omega), if_neg (by omega)]

theorem readNumber_leaves {bias place weight sum number code : Nat}
    {digits rest : List Nat}
    (found : readNumber bias place weight sum digits = some (number, rest))
    (member : code ∈ digits) (noDigit : value? code = none) : code ∈ rest := by
  induction digits generalizing place weight sum with
  | nil => cases member
  | cons first tail ih =>
      unfold readNumber at found
      split at found
      case h_1 => cases found
      case h_2 value isDigit =>
          have other : code ≠ first := by
            rintro rfl
            rw [noDigit] at isDigit
            cases isDigit
          have behind : code ∈ tail := (List.mem_cons.1 member).resolve_left other
          simp only at found
          split at found
          · rw [Option.some.injEq, Prod.mk.injEq] at found
            rw [← found.2]
            exact behind
          · exact ih found behind

theorem insertAll_eq_none {next position bias code : Nat}
    {label digits : List Nat} (member : code ∈ digits)
    (noDigit : value? code = none) :
    insertAll next position bias label digits = none := by
  induction next, position, bias, label, digits using insertAll.induct with
  | case1 => cases member
  | case2 next position bias label first tail absent =>
      unfold insertAll
      split
      · rfl
      case h_2 found =>
          rw [absent] at found
          cases found
  | case3 next position bias label first tail reached rest found count code'
      place isCode ih =>
      unfold insertAll
      split
      · rfl
      case h_2 found' =>
          rw [found, Option.some.injEq, Prod.mk.injEq] at found'
          obtain ⟨rfl, rfl⟩ := found'
          rw [if_pos isCode]
          exact ih (readNumber_leaves found member noDigit)
  | case4 next position bias label first tail reached rest found
      count code' noCode =>
      unfold insertAll
      split
      · rfl
      case h_2 found' =>
          rw [found, Option.some.injEq, Prod.mk.injEq] at found'
          obtain ⟨rfl, rfl⟩ := found'
          rw [if_neg noCode]

theorem mem_insertAll {next position bias code : Nat}
    {label digits result : List Nat}
    (found : insertAll next position bias label digits = some result)
    (member : code ∈ label) : code ∈ result := by
  induction next, position, bias, label, digits using insertAll.induct with
  | case1 =>
      rw [insertAll, Option.some.injEq] at found
      exact found ▸ member
  | case2 next position bias label first tail absent =>
      unfold insertAll at found
      split at found
      · cases found
      case h_2 present =>
          rw [absent] at present
          cases present
  | case3 next position bias label first tail reached rest read count code'
      place isCode ih =>
      unfold insertAll at found
      split at found
      · cases found
      case h_2 present =>
          rw [read, Option.some.injEq, Prod.mk.injEq] at present
          obtain ⟨rfl, rfl⟩ := present
          rw [if_pos isCode] at found
          apply ih found
          rw [← List.take_append_drop place label, List.mem_append] at member
          rw [List.mem_append, List.mem_cons]
          exact member.imp_right .inr
  | case4 next position bias label first tail reached rest read
      count code' noCode =>
      unfold insertAll at found
      split at found
      · cases found
      case h_2 present =>
          rw [read, Option.some.injEq, Prod.mk.injEq] at present
          obtain ⟨rfl, rfl⟩ := present
          rw [if_neg noCode] at found
          cases found

/-- A label that is read has the controls and blanks of its text. -/
theorem mem_decode {code : Nat} (low : code ≤ 32) {text result : List Nat}
    (found : decode text = some result)
    (member : code ∈ text) : code ∈ result := by
  rw [decode] at found
  split at found
  case isTrue => cases found
  split at found
  case isFalse => cases found
  have parts : text.reverse.takeWhile (· ≠ 45) ++ text.reverse.dropWhile
      (· ≠ 45) = text.reverse :=
    List.takeWhile_append_dropWhile
  rw [← List.mem_reverse, ← parts, List.mem_append] at member
  rcases member with inDigits | inBasic
  · rw [insertAll_eq_none (List.mem_reverse.2 inDigits) (value?_low low)] at found
    cases found
  · refine mem_insertAll found (List.mem_reverse.2 ?_)
    cases cut : text.reverse.dropWhile (· ≠ 45) with
    | nil =>
        rw [cut] at inBasic
        cases inBasic
    | cons hyphen before =>
        have isHyphen : hyphen = 45 := by
          have stops := List.head?_dropWhile_not (· ≠ 45) text.reverse
          rw [cut] at stops
          simpa using stops
        rw [cut, isHyphen] at inBasic
        exact (List.mem_cons.1 inBasic).resolve_left (by omega)

theorem Writer.prefix_place (label codes : List Nat) (next : Nat)
    (writer : Writer) : writer.text <+: (place label codes next writer).text := by
  have see (current code : Nat) (writer : Writer) :
      writer.text <+: (writer.see current code).text := by
    unfold Writer.see
    split
    · exact List.prefix_rfl
    · split
      · exact List.prefix_append _ _
      · exact List.prefix_rfl
  have seeAll (current : Nat) (seen : List Nat) (writer : Writer) :
      writer.text <+: (seen.foldl (Writer.see current) writer).text := by
    induction seen generalizing writer with
    | nil => exact List.prefix_rfl
    | cons code seen ih => exact (see current code writer).trans (ih _)
  induction codes generalizing next writer with
  | nil => exact List.prefix_rfl
  | cons code codes ih =>
      let reached :=
        { writer with gap := writer.gap + (code - next) * (writer.placed + 1) }
      let seen := label.foldl (Writer.see code) reached
      exact (seeAll code label reached).trans
        (ih (code + 1) { seen with gap := seen.gap + 1 })

theorem mem_encode {code : Nat} (ascii : code < 128) {label : List Nat}
    (member : code ∈ label) : Char.ofNat code ∈ encode label := by
  have basic : code ∈ label.filter (· < 128) :=
    List.mem_filter.2 ⟨member, decide_eq_true ascii⟩
  exact (Writer.prefix_place label (foreignCodes label) 128 ⟨_, 0, 72, _, _⟩).mem
    (List.mem_append_left _ (List.mem_map_of_mem basic))

end Punycode

/-! ### From a text to its domain name -/

private theorem isKept_low : ∀ code ≤ 32, Repertoire.isKept code = true := by
  decide +kernel

theorem mem_replaceAll? {code : Nat} (low : code ≤ 32) {codes result : List Nat}
    (found : replaceAll? codes = some result) (member : code ∈ codes) :
    code ∈ result := by
  induction codes generalizing result with
  | nil => cases member
  | cons first codes ih =>
      rw [replaceAll?] at found
      obtain ⟨others, read, found⟩ := Option.bind_eq_some_iff.1 found
      rcases List.mem_cons.1 member with rfl | behind
      · have kept : Repertoire.fate code = .kept := by
          rw [Repertoire.fate, if_pos (isKept_low code low)]
        rw [kept] at found
        cases found
        exact List.mem_cons_self
      · have later := ih read behind
        split at found
        · cases found
          exact List.mem_cons_of_mem first later
        · cases found
          exact later
        · cases found
          exact List.mem_append_right _ later
        · cases found

theorem mem_reading? {code : Nat} (low : code ≤ 32) {label result : List Nat}
    (found : reading? label = some result)
    (member : code ∈ label) : code ∈ result := by
  rw [reading?] at found
  split at found
  case isFalse =>
      cases found
      exact member
  case isTrue marked =>
      obtain ⟨decoded, read, found⟩ := Option.bind_eq_some_iff.1 found
      split at found
      case isFalse => cases found
      cases found
      obtain ⟨rest, rfl⟩ := List.isPrefixOf_iff_prefix.1 marked
      rw [List.drop_left] at read
      refine Punycode.mem_decode low read
        ((List.mem_append.1 member).resolve_left fun inMark => ?_)
      have beyond : ∀ sign ∈ mark, 32 < sign := by decide
      have := beyond code inMark
      omega

theorem mem_labelText {code : Nat} (low : code ≤ 32) {label : List Nat}
    (member : code ∈ label) : Char.ofNat code ∈ labelText label := by
  rw [labelText]
  split
  · exact List.mem_append_right _ (Punycode.mem_encode (by omega) member)
  · exact List.mem_map_of_mem member

private theorem mem_mapM {α β : Type} {change : α → Option β} {items : List α}
    {results : List β} (found : items.mapM change = some results) {item : α}
    (member : item ∈ items) : ∃ result ∈ results, change item = some result := by
  induction items generalizing results with
  | nil => cases member
  | cons first items ih =>
      rw [List.mapM_cons] at found
      obtain ⟨result, changed, found⟩ := Option.bind_eq_some_iff.1 found
      obtain ⟨others, read, found⟩ := Option.bind_eq_some_iff.1 found
      cases found
      rcases List.mem_cons.1 member with rfl | behind
      · exact ⟨result, List.mem_cons_self, changed⟩
      · obtain ⟨other, among, same⟩ := ih read behind
        exact ⟨other, List.mem_cons_of_mem result among, same⟩

/-- A text with a control or a blank is no domain name. -/
theorem ofText?_low {char : Char} (low : char.toNat ≤ 32) {text : List Char}
    (member : char ∈ text) : ofText? text = none := by
  rw [Option.eq_none_iff_forall_ne_some]
  intro result found
  rw [ofText?] at found
  obtain ⟨codes, replaced, found⟩ := Option.bind_eq_some_iff.1 found
  obtain ⟨labels, read, found⟩ := Option.bind_eq_some_iff.1 found
  have composed : char.toNat ∈ Composition.compose codes :=
    Composition.mem_compose low (mem_replaceAll? low replaced
      (List.mem_map_of_mem member))
  have noStop : char.toNat ≠ stop := by
    unfold stop
    omega
  obtain ⟨piece, among, inPiece⟩ := Text.mem_pieces noStop composed
  obtain ⟨label, listed, isReading⟩ := mem_mapM read among
  have inLabel := mem_labelText low (mem_reading? low isReading inPiece)
  rw [Char.ofNat_toNat] at inLabel
  have inResult : char ∈ Text.joined '.' (labels.map labelText) :=
    Text.mem_joined (List.mem_map_of_mem listed) inLabel
  have denied : (Text.joined '.' (labels.map labelText)).any isDenied = true := by
    rw [List.any_eq_true]
    refine ⟨char, inResult, ?_⟩
    rw [isDenied, decide_eq_true low, Bool.true_or, Bool.true_or]
  simp only [denied, if_true, ite_self, reduceCtorEq] at found

end BoundKey.Domain
