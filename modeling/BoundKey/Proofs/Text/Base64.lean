import BoundKey.Proofs.Bytes
import BoundKey.Text.Base64
import BoundKey.Text.Blank

set_option autoImplicit false

/-!
Base 64 is a bijection between byte strings and the texts that are read. Main
statement: a text is read as some bytes exactly when it is the one text that
writes them, in each of the three forms.
-/

namespace BoundKey.Base64

/-! ### Digits -/

theorem value?_digit {form : Form} {value : Nat} (small : value < 64) :
    value? form (digit form value) = some value := by
  have table : ∀ form : Form, ∀ place : Fin 64, value? form (digit form place) =
      some place.val := by
    intro form
    cases form <;> decide
  exact table form ⟨value, small⟩

theorem digit_of_value? {form : Form} {char : Char} {value : Nat}
    (found : value? form char = some value) :
    value < 64 ∧ digit form value = char := by
  unfold value? at found
  split at found
  · next upper =>
      have low : 65 ≤ char.toNat := upper.1
      have high : char.toNat ≤ 90 := upper.2
      cases found
      refine ⟨by omega, ?_⟩
      rw [digit, if_pos (by omega), Nat.add_sub_cancel' low, Char.ofNat_toNat]
  · split at found
    · next lower =>
        have low : 97 ≤ char.toNat := lower.1
        have high : char.toNat ≤ 122 := lower.2
        cases found
        refine ⟨by omega, ?_⟩
        rw [digit, if_neg (by omega), if_pos (by omega),
          Nat.add_sub_cancel' (by omega), Char.ofNat_toNat]
    · split at found
      · next numeral =>
          have low : 48 ≤ char.toNat := numeral.1
          have high : char.toNat ≤ 57 := numeral.2
          cases found
          refine ⟨by omega, ?_⟩
          rw [digit, if_neg (by omega), if_neg (by omega), if_pos (by omega),
            Nat.add_sub_cancel, Char.ofNat_toNat]
      · split at found
        · next first =>
            cases found
            exact ⟨by decide, first.symm⟩
        · split at found
          · next second =>
              cases found
              exact ⟨by decide, second.symm⟩
          · cases found

theorem digit_ne_pad {form : Form} {value : Nat} (small : value < 64) :
    digit form value ≠ '=' := by
  have table : ∀ form : Form, ∀ place : Fin 64, digit form place ≠ '=' := by
    intro form
    cases form <;> decide
  exact table form ⟨value, small⟩

theorem digit_url_plain {value : Nat} (small : value < 64) :
    (digit .url value == '.' || Text.isBlank (digit .url value)) = false := by
  have table : ∀ place : Fin 64,
      (digit .url place == '.' || Text.isBlank (digit .url place)) = false := by
    decide
  exact table ⟨value, small⟩

/-! ### Groups of six bits -/

theorem sextets_lt (bytes : Bytes) : ∀ value ∈ sextets bytes, value < 64 := by
  fun_induction sextets bytes with
  | case1 =>
      intro value member
      cases member
  | case2 a =>
      have boundA := a.toNat_lt
      intro value member
      simp only [List.mem_cons, List.not_mem_nil, or_false] at member
      omega
  | case3 a b =>
      have boundA := a.toNat_lt
      have boundB := b.toNat_lt
      intro value member
      simp only [List.mem_cons, List.not_mem_nil, or_false] at member
      omega
  | case4 a b c rest ih =>
      have boundA := a.toNat_lt
      have boundB := b.toNat_lt
      have boundC := c.toNat_lt
      intro value member
      simp only [List.mem_cons] at member
      rcases member with first | second | third | fourth | later
      · omega
      · omega
      · omega
      · omega
      · exact ih value later

theorem sextets_eq_nil {bytes : Bytes} (empty : sextets bytes = []) :
    bytes = [] := by
  unfold sextets at empty
  split at empty
  · rfl
  all_goals cases empty

private theorem byte_eq (byte : UInt8) {number : Nat}
    (same : number = byte.toNat) : UInt8.ofNat number = byte := by
  rw [same, UInt8.ofNat_toNat]

theorem ofSextets_sextets (bytes : Bytes) :
    ofSextets (sextets bytes) = some bytes := by
  fun_induction sextets bytes with
  | case1 => rfl
  | case2 a =>
      have boundA := a.toNat_lt
      rw [ofSextets, if_pos (by omega), byte_eq a (by omega)]
  | case3 a b =>
      have boundA := a.toNat_lt
      have boundB := b.toNat_lt
      rw [ofSextets, if_pos (by omega), byte_eq a (by omega),
        byte_eq b (by omega)]
  | case4 a b c rest ih =>
      have boundA := a.toNat_lt
      have boundB := b.toNat_lt
      have boundC := c.toNat_lt
      rw [ofSextets, ih, Option.map_some, byte_eq a (by omega),
        byte_eq b (by omega), byte_eq c (by omega)]

theorem sextets_of_ofSextets {values : List Nat} {bytes : Bytes}
    (small : ∀ value ∈ values, value < 64)
    (found : ofSextets values = some bytes) : sextets bytes = values := by
  fun_induction ofSextets values generalizing bytes with
  | case1 =>
      cases found
      rfl
  | case2 => cases found
  | case3 a b even =>
      have boundA := small a (by simp)
      have boundB := small b (by simp)
      cases found
      rw [sextets, Bytes.toNat_byte (by omega)]
      congr 1
      · omega
      · congr 1
        omega
  | case4 => cases found
  | case5 a b c even =>
      have boundA := small a (by simp)
      have boundB := small b (by simp)
      have boundC := small c (by simp)
      cases found
      rw [sextets, Bytes.toNat_byte (by omega), Bytes.toNat_byte (by omega)]
      congr 1
      · omega
      · congr 1
        · omega
        · congr 1
          omega
  | case6 => cases found
  | case7 a b c d rest ih =>
      have boundA := small a (by simp)
      have boundB := small b (by simp)
      have boundC := small c (by simp)
      have boundD := small d (by simp)
      obtain ⟨inner, read, rfl⟩ := Option.map_eq_some_iff.1 found
      have later := ih (fun value member => small value (by simp [member])) read
      rw [sextets, Bytes.toNat_byte (by omega), Bytes.toNat_byte (by omega),
        Bytes.toNat_byte (by omega), later]
      congr 1
      · omega
      · congr 1
        · omega
        · congr 1
          · omega
          · congr 1
            omega

/-! ### Texts -/

private theorem mapM_value?_digits (form : Form) {values : List Nat}
    (small : ∀ value ∈ values, value < 64) :
    (values.map (digit form)).mapM (value? form) = some values := by
  induction values with
  | nil => rfl
  | cons value rest ih =>
      have later := ih fun other member =>
        small other (List.mem_cons_of_mem value member)
      rw [List.map_cons, List.mapM_cons,
        value?_digit (small value List.mem_cons_self), later]
      rfl

private theorem digits_of_mapM_value? {form : Form} {chars : List Char}
    {values : List Nat} (found : chars.mapM (value? form) = some values) :
    (∀ value ∈ values, value < 64) ∧ values.map (digit form) = chars := by
  induction chars generalizing values with
  | nil =>
      cases found
      exact ⟨fun value member => (List.not_mem_nil member).elim, rfl⟩
  | cons char rest ih =>
      rw [List.mapM_cons] at found
      obtain ⟨first, read, tailFound⟩ := Option.bind_eq_some_iff.1 found
      obtain ⟨others, readOthers, same⟩ := Option.bind_eq_some_iff.1 tailFound
      cases same
      have atFirst := digit_of_value? read
      have later := ih readOthers
      refine ⟨?_, ?_⟩
      · intro value member
        rcases List.mem_cons.1 member with same | inRest
        · rw [same]
          exact atFirst.1
        · exact later.1 value inRest
      · rw [List.map_cons, atFirst.2, later.2]

private theorem split_at_padding (form : Form) {chars tail : List Char}
    (plain : ∀ char ∈ chars, char ≠ '=')
    (padded : tail = padding form chars.length) :
    (chars ++ tail).takeWhile (· ≠ '=') = chars ∧
      (chars ++ tail).dropWhile (· ≠ '=') = tail := by
  have pads : ∀ char ∈ tail, char = '=' := by
    intro char member
    rw [padded] at member
    cases form with
    | padded => exact List.eq_of_mem_replicate member
    | unpadded => cases member
    | url => cases member
  have kept : ∀ char ∈ chars, decide (char ≠ '=') = true := fun char member =>
    decide_eq_true (plain char member)
  rw [List.takeWhile_append_of_pos kept, List.dropWhile_append_of_pos kept]
  cases tail with
  | nil =>
      rw [List.takeWhile_nil, List.append_nil]
      exact ⟨rfl, rfl⟩
  | cons first rest =>
      have same : first = '=' := pads first List.mem_cons_self
      subst same
      rw [List.takeWhile_cons_of_neg (by decide),
        List.dropWhile_cons_of_neg (by decide), List.append_nil]
      exact ⟨rfl, rfl⟩

@[simp] theorem decode_encode (form : Form) (bytes : Bytes) :
    decode form (encode form bytes) = some bytes := by
  have small := sextets_lt bytes
  have plain : ∀ char ∈ (sextets bytes).map (digit form), char ≠ '=' := by
    intro char member
    obtain ⟨value, present, rfl⟩ := List.mem_map.1 member
    exact digit_ne_pad (small value present)
  obtain ⟨front, back⟩ := split_at_padding form plain rfl
  rw [decode, encode]
  simp only [String.toList_ofList]
  rw [front, back, if_pos rfl, mapM_value?_digits form small]
  exact ofSextets_sextets bytes

theorem encode_of_decode {form : Form} {text : String} {bytes : Bytes}
    (found : decode form text = some bytes) : encode form bytes = text := by
  unfold decode at found
  simp only at found
  split at found
  · next padded =>
      obtain ⟨values, read, regrouped⟩ := Option.bind_eq_some_iff.1 found
      obtain ⟨small, written⟩ := digits_of_mapM_value? read
      rw [encode, sextets_of_ofSextets small regrouped, written, ← padded,
        List.takeWhile_append_dropWhile, String.ofList_toList]
  · cases found

/-- A text is read as some bytes exactly when it is the text that writes
them. -/
theorem decode_eq_some_iff {form : Form} {text : String} {bytes : Bytes} :
    decode form text = some bytes ↔ text = encode form bytes := by
  constructor
  · intro found
    exact (encode_of_decode found).symm
  · intro same
    rw [same, decode_encode]

/-! ### Texts for URLs -/

@[simp] theorem encode_inj {form : Form} {bytes other : Bytes} :
    encode form bytes = encode form other ↔ bytes = other := by
  constructor
  · intro same
    have decoded := decode_eq_some_iff.2 same
    rw [decode_encode] at decoded
    exact Option.some.inj decoded
  · exact congrArg (encode form)

theorem encode_url_toList (bytes : Bytes) :
    (encode .url bytes).toList = (sextets bytes).map (digit .url) := by
  rw [encode, String.toList_ofList]
  exact List.append_nil _

theorem encode_url_plain (bytes : Bytes) :
    ∀ char ∈ (encode .url bytes).toList,
      (char == '.' || Text.isBlank char) = false := by
  intro char member
  rw [encode_url_toList] at member
  obtain ⟨value, present, rfl⟩ := List.mem_map.1 member
  exact digit_url_plain (sextets_lt bytes value present)

theorem encode_url_ne_nil {bytes : Bytes} (some : bytes ≠ []) :
    (encode .url bytes).toList ≠ [] := by
  intro empty
  rw [encode_url_toList] at empty
  exact some (sextets_eq_nil (List.map_eq_nil_iff.1 empty))

end BoundKey.Base64
