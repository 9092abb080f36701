import BoundKey.Proofs.Bytes
import BoundKey.Text.Utf8

set_option autoImplicit false

/-!
Text as bytes and back. Main statement: the bytes of a text are read as that
text, so that no text is lost or changed on the way. The case distinction is by
the number of bytes that a character takes.
-/

namespace BoundKey.Utf8

/-! ### One character at the front -/

private theorem lt_of_toNat {left right : UInt8}
    (less : left.toNat < right.toNat) : left < right :=
  UInt8.lt_iff_toNat_lt.2 less

private theorem not_lt_of_toNat {left right : UInt8}
    (atLeast : right.toNat ≤ left.toNat) : ¬ left < right := by
  rw [UInt8.lt_iff_toNat_lt]
  omega

theorem isContinuation_iff (byte : UInt8) :
    isContinuation byte = true ↔ 128 ≤ byte.toNat ∧ byte.toNat ≤ 191 := by
  unfold isContinuation
  rw [Bool.and_eq_true, decide_eq_true_iff, decide_eq_true_iff,
    UInt8.le_iff_toNat_le, UInt8.le_iff_toNat_le]
  rfl

theorem secondAllowed_of {first second : UInt8}
    (follows : 128 ≤ second.toNat ∧ second.toNat ≤ 191)
    (noOverlongThree : first.toNat = 224 → 160 ≤ second.toNat)
    (noSurrogate : first.toNat = 237 → second.toNat ≤ 159)
    (noOverlongFour : first.toNat = 240 → 144 ≤ second.toNat)
    (noBeyond : first.toNat = 244 → second.toNat ≤ 143) :
    secondAllowed first second = true := by
  have bounded : ∀ low high : UInt8, low.toNat ≤ second.toNat →
      second.toNat ≤ high.toNat →
      (decide (low ≤ second) && decide (second ≤ high)) = true := by
    intro low high above below
    rw [Bool.and_eq_true, decide_eq_true_iff, decide_eq_true_iff]
    exact ⟨UInt8.le_iff_toNat_le.2 above, UInt8.le_iff_toNat_le.2 below⟩
  unfold secondAllowed
  split
  · next same =>
      exact bounded _ _ (noOverlongThree (congrArg UInt8.toNat same)) follows.2
  · split
    · next same =>
        exact bounded _ _ follows.1 (noSurrogate (congrArg UInt8.toNat same))
    · split
      · next same =>
          exact bounded _ _ (noOverlongFour (congrArg UInt8.toNat same)) follows.2
      · split
        · next same =>
            exact bounded _ _ follows.1 (noBeyond (congrArg UInt8.toNat same))
        · exact (isContinuation_iff second).2 follows

theorem front_one {first : UInt8} (small : first.toNat < 128) (rest : Bytes) :
    front first rest = .char first.toNat 1 := by
  rw [front.eq_def, if_pos (lt_of_toNat small)]

theorem front_two {first second : UInt8}
    (lead : 194 ≤ first.toNat ∧ first.toNat ≤ 223)
    (follows : 128 ≤ second.toNat ∧ second.toNat ≤ 191) (rest : Bytes) :
    front first (second :: rest) =
      .char ((first.toNat - 192) * 64 + second.toNat % 64) 2 := by
  have big : ¬ first < 0x80 :=
    not_lt_of_toNat (by change 128 ≤ first.toNat; omega)
  have inRange : 0xc2 ≤ first ∧ first ≤ 0xdf :=
    ⟨UInt8.le_iff_toNat_le.2 lead.1, UInt8.le_iff_toNat_le.2 lead.2⟩
  rw [front.eq_def, if_neg big, if_pos inRange]
  simp only [(isContinuation_iff second).2 follows, if_true]
  rfl

theorem front_three {first second third : UInt8}
    (lead : 224 ≤ first.toNat ∧ first.toNat ≤ 239)
    (allowed : secondAllowed first second = true)
    (follows : 128 ≤ third.toNat ∧ third.toNat ≤ 191) (rest : Bytes) :
    front first (second :: third :: rest) =
      .char (((first.toNat - 224) * 64 + second.toNat % 64) * 64 +
        third.toNat % 64) 3 := by
  have big : ¬ first < 0x80 :=
    not_lt_of_toNat (by change 128 ≤ first.toNat; omega)
  have notTwo : ¬ (0xc2 ≤ first ∧ first ≤ 0xdf) := by
    rw [UInt8.le_iff_toNat_le, UInt8.le_iff_toNat_le]
    change ¬ (194 ≤ first.toNat ∧ first.toNat ≤ 223)
    omega
  have inRange : 0xe0 ≤ first ∧ first ≤ 0xef :=
    ⟨UInt8.le_iff_toNat_le.2 lead.1, UInt8.le_iff_toNat_le.2 lead.2⟩
  rw [front.eq_def, if_neg big, if_neg notTwo, if_pos inRange]
  simp only [allowed, (isContinuation_iff third).2 follows, if_true]
  rfl

theorem front_four {first second third fourth : UInt8}
    (lead : 240 ≤ first.toNat ∧ first.toNat ≤ 244)
    (allowed : secondAllowed first second = true)
    (follows : 128 ≤ third.toNat ∧ third.toNat ≤ 191)
    (ends : 128 ≤ fourth.toNat ∧ fourth.toNat ≤ 191) (rest : Bytes) :
    front first (second :: third :: fourth :: rest) =
      .char ((((first.toNat - 240) * 64 + second.toNat % 64) * 64 +
        third.toNat % 64) * 64 + fourth.toNat % 64) 4 := by
  have big : ¬ first < 0x80 :=
    not_lt_of_toNat (by change 128 ≤ first.toNat; omega)
  have notTwo : ¬ (0xc2 ≤ first ∧ first ≤ 0xdf) := by
    rw [UInt8.le_iff_toNat_le, UInt8.le_iff_toNat_le]
    change ¬ (194 ≤ first.toNat ∧ first.toNat ≤ 223)
    omega
  have notThree : ¬ (0xe0 ≤ first ∧ first ≤ 0xef) := by
    rw [UInt8.le_iff_toNat_le, UInt8.le_iff_toNat_le]
    change ¬ (224 ≤ first.toNat ∧ first.toNat ≤ 239)
    omega
  have inRange : 0xf0 ≤ first ∧ first ≤ 0xf4 :=
    ⟨UInt8.le_iff_toNat_le.2 lead.1, UInt8.le_iff_toNat_le.2 lead.2⟩
  rw [front.eq_def, if_neg big, if_neg notTwo, if_neg notThree, if_pos inRange]
  simp only [allowed, (isContinuation_iff third).2 follows,
    (isContinuation_iff fourth).2 ends, if_true]
  rfl

theorem toNat_valid (char : Char) :
    char.toNat < 0xd800 ∨ (0xdfff < char.toNat ∧ char.toNat < 0x110000) :=
  char.valid

/-- The bytes of a character are read as that character, whatever follows
them. -/
theorem front_utf8EncodeChar (char : Char) (rest : Bytes) :
    ∃ first more, String.utf8EncodeChar char = first :: more ∧
      front first (more ++ rest) = .char char.toNat (more.length + 1) := by
  have valid := toNat_valid char
  have code : char.val.toNat = char.toNat := rfl
  unfold String.utf8EncodeChar
  simp only [code]
  by_cases one : char.toNat ≤ 0x7f
  · rw [if_pos one]
    refine ⟨_, _, rfl, ?_⟩
    rw [List.nil_append, front_one]
    · rw [Bytes.toNat_byte (by omega)]
      rfl
    · rw [Bytes.toNat_byte (by omega)]
      omega
  · rw [if_neg one]
    by_cases two : char.toNat ≤ 0x7ff
    · rw [if_pos two]
      refine ⟨_, _, rfl, ?_⟩
      rw [List.cons_append, List.nil_append, front_two]
      · rw [Bytes.toNat_byte (by omega), Bytes.toNat_byte (by omega)]
        congr 1
        omega
      · rw [Bytes.toNat_byte (by omega)]
        omega
      · rw [Bytes.toNat_byte (by omega)]
        omega
    · rw [if_neg two]
      by_cases three : char.toNat ≤ 0xffff
      · rw [if_pos three]
        refine ⟨_, _, rfl, ?_⟩
        rw [List.cons_append, List.cons_append, List.nil_append, front_three]
        · rw [Bytes.toNat_byte (by omega), Bytes.toNat_byte (by omega),
            Bytes.toNat_byte (by omega)]
          congr 1
          omega
        · rw [Bytes.toNat_byte (by omega)]
          omega
        · apply secondAllowed_of
          all_goals
            rw [Bytes.toNat_byte (by omega)]
            try rw [Bytes.toNat_byte (by omega)]
            omega
        · rw [Bytes.toNat_byte (by omega)]
          omega
      · rw [if_neg three]
        refine ⟨_, _, rfl, ?_⟩
        rw [List.cons_append, List.cons_append, List.cons_append,
          List.nil_append, front_four]
        · rw [Bytes.toNat_byte (by omega), Bytes.toNat_byte (by omega),
            Bytes.toNat_byte (by omega), Bytes.toNat_byte (by omega)]
          congr 1
          omega
        · rw [Bytes.toNat_byte (by omega)]
          omega
        · apply secondAllowed_of
          all_goals
            rw [Bytes.toNat_byte (by omega)]
            try rw [Bytes.toNat_byte (by omega)]
            omega
        · rw [Bytes.toNat_byte (by omega)]
          omega
        · rw [Bytes.toNat_byte (by omega)]
          omega

/-! ### Whole texts -/

theorem decodeFrom_utf8EncodeChar_append
    (start : Nat) (char : Char) (rest : Bytes) :
    decodeFrom start (String.utf8EncodeChar char ++ rest) =
      (decodeFrom (start + (String.utf8EncodeChar char).length) rest).map
        (char :: ·) := by
  obtain ⟨first, more, bytes, read⟩ := front_utf8EncodeChar char rest
  rw [bytes, List.cons_append, decodeFrom, read]
  simp only [Nat.add_sub_cancel, List.drop_left, List.length_cons,
    Char.ofNat_toNat]
  cases decodeFrom (start + (more.length + 1)) rest <;> rfl

theorem decodeFrom_encodeChars (start : Nat) (chars : List Char) :
    decodeFrom start (encodeChars chars) = .ok chars := by
  induction chars generalizing start with
  | nil =>
      change decodeFrom start [] = .ok []
      rw [decodeFrom]
  | cons char rest ih =>
      rw [encodeChars, List.flatMap_cons, decodeFrom_utf8EncodeChar_append]
      change (decodeFrom _ (encodeChars rest)).map (char :: ·) = _
      rw [ih]
      rfl

@[simp] theorem decode_encode (text : String) :
    decode (encode text) = .ok text := by
  rw [decode, encode, decodeFrom_encodeChars]
  change Except.ok (String.ofList text.toList) = _
  rw [String.ofList_toList]

@[simp] theorem decode?_encode (text : String) :
    decode? (encode text) = some text := by
  rw [decode?, decode_encode]
  rfl

@[simp] theorem encode_inj {text other : String} :
    encode text = encode other ↔ text = other := by
  constructor
  · intro same
    have read := congrArg decode? same
    rw [decode?_encode, decode?_encode] at read
    exact Option.some.inj read
  · exact congrArg encode

@[simp] theorem encodeChars_append (front back : List Char) :
    encodeChars (front ++ back) = encodeChars front ++ encodeChars back :=
  List.flatMap_append

@[simp] theorem encodeChars_cons (char : Char) (rest : List Char) :
    encodeChars (char :: rest) = String.utf8EncodeChar char ++ encodeChars rest :=
  List.flatMap_cons

@[simp] theorem encodeChars_nil : encodeChars [] = [] := rfl

theorem utf8EncodeChar_ascii {char : Char} (ascii : char.toNat < 128) :
    String.utf8EncodeChar char = [UInt8.ofNat char.toNat] := by
  have code : char.val.toNat = char.toNat := rfl
  unfold String.utf8EncodeChar
  rw [code]
  exact if_pos (by omega)

theorem utf8EncodeChar_high {char : Char} (beyond : 128 ≤ char.toNat) :
    ∀ byte ∈ String.utf8EncodeChar char, 128 ≤ byte.toNat := by
  have valid := toNat_valid char
  have code : char.val.toNat = char.toNat := rfl
  intro byte member
  unfold String.utf8EncodeChar at member
  simp only [code] at member
  rw [if_neg (by omega)] at member
  split at member
  · simp only [List.mem_cons, List.not_mem_nil, or_false] at member
    rcases member with rfl | rfl <;> rw [Bytes.toNat_byte (by omega)] <;> omega
  · split at member
    · simp only [List.mem_cons, List.not_mem_nil, or_false] at member
      rcases member with rfl | rfl | rfl <;> rw [Bytes.toNat_byte (by omega)]
        <;> omega
    · simp only [List.mem_cons, List.not_mem_nil, or_false] at member
      rcases member with rfl | rfl | rfl | rfl <;>
        rw [Bytes.toNat_byte (by omega)] <;> omega

/-! ### Characters of ASCII that are read -/

private theorem le_of_isContinuation
    {byte : UInt8} (follows : isContinuation byte = true) : 128 ≤ byte.toNat :=
  ((isContinuation_iff byte).1 follows).1

private theorem le_of_secondAllowed
    {first second : UInt8} (allowed : secondAllowed first second = true) :
    128 ≤ second.toNat := by
  have atLeast : ∀ low high : UInt8, 128 ≤ low.toNat →
      (decide (low ≤ second) && decide (second ≤ high)) = true →
      128 ≤ second.toNat := by
    intro low high big both
    rw [Bool.and_eq_true, decide_eq_true_iff, UInt8.le_iff_toNat_le] at both
    omega
  unfold secondAllowed at allowed
  split at allowed
  · exact atLeast _ _ (by decide) allowed
  · split at allowed
    · exact atLeast _ _ (by decide) allowed
    · split at allowed
      · exact atLeast _ _ (by decide) allowed
      · split at allowed
        · exact atLeast _ _ (by decide) allowed
        · exact le_of_isContinuation allowed

theorem front_continues {first : UInt8} {rest : Bytes} {code width : Nat}
    (found : front first rest = .char code width) :
    ∀ byte ∈ rest.take (width - 1), 128 ≤ byte.toNat := by
  unfold front at found
  split at found
  · cases found
    exact fun _ member => absurd member List.not_mem_nil
  split at found
  · split at found
    · cases found
    · split at found
      case isTrue second after follows =>
          cases found
          simpa using le_of_isContinuation follows
      case isFalse => cases found
  split at found
  · split at found
    · cases found
    · split at found
      case isFalse => cases found
      case isTrue allowed =>
          split at found
          · cases found
          · split at found
            case isTrue follows =>
                cases found
                simpa using ⟨le_of_secondAllowed allowed,
                  le_of_isContinuation follows⟩
            case isFalse => cases found
  split at found
  · split at found
    · cases found
    · split at found
      case isFalse => cases found
      case isTrue allowed =>
          split at found
          · cases found
          · split at found
            case isFalse => cases found
            case isTrue third =>
                split at found
                · cases found
                · split at found
                  case isTrue fourth =>
                      cases found
                      simpa using
                        ⟨le_of_secondAllowed allowed, le_of_isContinuation
                          third, le_of_isContinuation fourth⟩
                  case isFalse => cases found
  · cases found

/-- A byte of ASCII is read as its character, wherever it stands. -/
theorem mem_decodeFrom {start : Nat} {bytes : Bytes} {chars : List Char}
    (found : decodeFrom start bytes = .ok chars)
    {byte : UInt8} (ascii : byte.toNat < 128) (member : byte ∈ bytes) :
    Char.ofNat byte.toNat ∈ chars := by
  induction start, bytes using decodeFrom.induct generalizing chars with
  | case1 => cases member
  | case2 start first rest code width isChar later read ih =>
      rw [decodeFrom, isChar] at found
      simp only [read] at found
      cases found
      rcases List.mem_cons.1 member with rfl | behind
      · rw [front_one ascii] at isChar
        cases isChar
        exact List.mem_cons_self
      · rw [← List.take_append_drop (width - 1) rest, List.mem_append] at behind
        have notInside : byte ∉ rest.take (width - 1) := by
          intro inside
          have := front_continues isChar byte inside
          omega
        exact List.mem_cons_of_mem _ (ih read (behind.resolve_left notInside))
  | case3 start first rest code width isChar fault read =>
      rw [decodeFrom, isChar] at found
      simp only [read] at found
      cases found
  | case4 start first rest length malformed =>
      rw [decodeFrom, malformed] at found
      cases found
  | case5 start first rest incomplete =>
      rw [decodeFrom, incomplete] at found
      cases found

theorem mem_decode? {bytes : Bytes} {text : String}
    (found : decode? bytes = some text) {byte : UInt8}
    (ascii : byte.toNat < 128) (member : byte ∈ bytes) :
    Char.ofNat byte.toNat ∈ text.toList := by
  rw [decode?, decode] at found
  cases read : decodeFrom 0 bytes with
  | error fault =>
      rw [read] at found
      cases found
  | ok chars =>
      rw [read] at found
      cases found
      rw [String.toList_ofList]
      exact mem_decodeFrom read ascii member

/-! ### Stops -/

section Stops

variable {keeps : Char → Bool} {keepsByte : UInt8 → Bool}

/-- Bytes and characters are kept alike: those below 128 by what they are, and
all others. -/
structure KeepsAlike (keeps : Char → Bool) (keepsByte : UInt8 → Bool) : Prop where
  low : ∀ code < 128, keepsByte (UInt8.ofNat code) = keeps (Char.ofNat code)
  highChar : ∀ char, 128 ≤ char.toNat → keeps char = true
  highByte : ∀ byte, 128 ≤ byte.toNat → keepsByte byte = true

/-- A stop below 128 stands among the bytes where it stands among the
characters, never inside another character. -/
theorem KeepsAlike.cut (alike : KeepsAlike keeps keepsByte) (text : List Char) :
    (encodeChars text).takeWhile keepsByte = encodeChars (text.takeWhile keeps) ∧
    (encodeChars text).dropWhile keepsByte =
      encodeChars (text.dropWhile keeps) := by
  induction text with
  | nil => exact ⟨rfl, rfl⟩
  | cons char text ih =>
      rw [encodeChars_cons]
      by_cases ascii : char.toNat < 128
      · rw [utf8EncodeChar_ascii ascii, List.singleton_append,
          List.takeWhile_cons, List.dropWhile_cons,
          List.takeWhile_cons, List.dropWhile_cons, alike.low _ ascii,
          Char.ofNat_toNat]
        split
        · rw [ih.1, ih.2, encodeChars_cons, utf8EncodeChar_ascii ascii]
          exact ⟨rfl, rfl⟩
        · rw [encodeChars_cons, utf8EncodeChar_ascii ascii]
          exact ⟨rfl, rfl⟩
      · have beyond := Nat.not_lt.1 ascii
        have whole : ∀ byte ∈ String.utf8EncodeChar char,
            keepsByte byte = true := fun byte member =>
          alike.highByte byte (utf8EncodeChar_high beyond byte member)
        rw [List.takeWhile_append_of_pos whole,
          List.dropWhile_append_of_pos whole,
          List.takeWhile_cons_of_pos (alike.highChar char beyond),
          List.dropWhile_cons_of_pos (alike.highChar char beyond), ih.1, ih.2,
          encodeChars_cons]
        exact ⟨rfl, rfl⟩

end Stops

end BoundKey.Utf8
