import BoundKey.Proofs.Json.Number
import BoundKey.Proofs.Json.Quoted

set_option autoImplicit false

/-!
Printed values are read back as they were printed. The tokens of a printed value
and its tree are written down along the constructors of the value; the text is
cut into these tokens, and the machine that reads them arrives at this tree with
its stack as it found it.
-/

namespace BoundKey.Json

def Value.bytes (value : Value) : Bytes :=
  Utf8.encodeChars value.chars

theorem Value.encode_render (value : Value) :
    Utf8.encode value.render = value.bytes := by
  rw [Utf8.encode, Value.render, String.toList_ofList]
  rfl

/-! ### What is printed -/

mutual

def Value.tokens : Value → List Token
  | .null => [.null]
  | .bool value => [.bool value]
  | .number value => [.number value.bytes]
  | .string text => [.string (quotedBytes text)]
  | .array [] => [.openBracket, .closeBracket]
  | .array (first :: rest) => .openBracket :: (first.tokens ++ itemsTokens rest)
  | .object [] => [.openBrace, .closeBrace]
  | .object ((name, first) :: rest) =>
    .openBrace :: .string (quotedBytes name) :: .colon ::
      (first.tokens ++ membersTokens rest)

def itemsTokens : List Value → List Token
  | [] => [.closeBracket]
  | first :: rest => .comma :: (first.tokens ++ itemsTokens rest)

def membersTokens : List (String × Value) → List Token
  | [] => [.closeBrace]
  | (name, first) :: rest => .comma :: .string (quotedBytes name) :: .colon ::
      (first.tokens ++ membersTokens rest)

end

mutual

def Value.tree : Value → Tree
  | .null => .null
  | .bool value => .bool value
  | .number value => .number value.bytes
  | .string text => .string (quotedBytes text)
  | .array items => .array (itemTrees items)
  | .object members => .object (memberTrees members)

def itemTrees : List Value → List Tree
  | [] => []
  | first :: rest => first.tree :: itemTrees rest

def memberTrees : List (String × Value) → List (Bytes × Tree)
  | [] => []
  | (name, first) :: rest => (quotedBytes name, first.tree) :: memberTrees rest

end

/-! ### Tokens -/

/-- Text that cannot go on a number: it is at its end, or its first byte is no
part of a number. -/
def Stops (bytes : Bytes) : Prop :=
  ∀ byte ∈ bytes.head?, Token.isNumberByte byte = false

theorem stops_nil : Stops [] := by
  intro byte first
  cases first

theorem stops_cons {byte : UInt8} (other : Token.isNumberByte byte = false)
    (rest : Bytes) : Stops (byte :: rest) := by
  intro first same
  cases same
  exact other

theorem tokens_nil : Token.tokens [] = some [] := by
  rw [Token.tokens.eq_def]

theorem tokens_punctuation {byte : UInt8} {token : Token}
    (visible : Token.isBlank byte = false)
    (meant : Token.punctuation? byte = some token) (rest : Bytes) :
    Token.tokens (byte :: rest) = (Token.tokens rest).map (token :: ·) := by
  rw [Token.tokens.eq_def]
  simp only [visible, meant, Bool.false_eq_true, if_false]

theorem tokens_quoted (text : String) (rest : Bytes) :
    Token.tokens (0x22 :: (quotedBytes text ++ 0x22 :: rest)) =
      (Token.tokens rest).map (.string (quotedBytes text) :: ·) := by
  have visible : Token.isBlank 0x22 = false := rfl
  have noMark : Token.punctuation? 0x22 = none := rfl
  rw [Token.tokens.eq_def]
  simp only [visible, noMark, Bool.false_eq_true, if_false, if_true]
  split
  · next content after found =>
      rw [scanString_quotedBytes] at found
      cases found
      rfl
  · next missing =>
      rw [scanString_quotedBytes] at missing
      cases missing

private theorem plain_of_isNumberByte
    {byte : UInt8} (part : Token.isNumberByte byte = true) :
    Token.isBlank byte = false ∧ Token.punctuation? byte = none ∧
      byte ≠ 0x22 := by
  have table : ∀ place : Fin 256, Token.isNumberByte (UInt8.ofNat place) = true →
      Token.isBlank (UInt8.ofNat place) = false ∧
        Token.punctuation? (UInt8.ofNat place) = none ∧
        UInt8.ofNat place ≠ 0x22 := by
    decide +kernel
  have same : UInt8.ofNat byte.toNat = byte := UInt8.ofNat_toNat
  have known := table ⟨byte.toNat, byte.toNat_lt⟩
  rw [same] at known
  exact known part

theorem tokens_number (number : Number) {rest : Bytes} (stops : Stops rest) :
    Token.tokens (number.bytes ++ rest) =
      (Token.tokens rest).map (.number number.bytes :: ·) := by
  have parts := number.isNumberByte_bytes
  have taken : (number.bytes ++ rest).takeWhile Token.isNumberByte =
      number.bytes := by
    rw [List.takeWhile_append_of_pos parts]
    cases rest with
    | nil => exact List.append_nil _
    | cons byte more =>
        rw [List.takeWhile_cons, stops byte rfl, if_neg Bool.false_ne_true,
          List.append_nil]
  have dropped : (number.bytes ++ rest).dropWhile Token.isNumberByte = rest := by
    rw [List.dropWhile_append_of_pos parts]
    cases rest with
    | nil => rfl
    | cons byte more =>
        rw [List.dropWhile_cons, stops byte rfl, if_neg Bool.false_ne_true]
  have literal := number.numberParts?_bytes
  cases shape : number.bytes with
  | nil => exact absurd shape number.bytes_ne_nil
  | cons first others =>
      have part := parts first (by rw [shape]; exact List.mem_cons_self)
      obtain ⟨visible, noMark, noQuote⟩ := plain_of_isNumberByte part
      rw [shape, List.cons_append] at taken dropped
      rw [shape] at literal
      rw [List.cons_append, Token.tokens.eq_def]
      simp only [visible, noMark, if_neg noQuote, dif_pos part, taken, dropped,
        if_pos literal, Bool.false_eq_true, if_false]

theorem tokens_null (rest : Bytes) :
    Token.tokens (0x6e :: 0x75 :: 0x6c :: 0x6c :: rest) =
      (Token.tokens rest).map (.null :: ·) := by
  rw [Token.tokens.eq_def]
  rfl

theorem tokens_true (rest : Bytes) :
    Token.tokens (0x74 :: 0x72 :: 0x75 :: 0x65 :: rest) =
      (Token.tokens rest).map (.bool true :: ·) := by
  rw [Token.tokens.eq_def]
  rfl

theorem tokens_false (rest : Bytes) :
    Token.tokens (0x66 :: 0x61 :: 0x6c :: 0x73 :: 0x65 :: rest) =
      (Token.tokens rest).map (.bool false :: ·) := by
  rw [Token.tokens.eq_def]
  rfl

private theorem encodeChars_quote (text : String) (rest : List Char) :
    Utf8.encodeChars (quote text ++ rest) =
      0x22 :: (quotedBytes text ++ 0x22 :: Utf8.encodeChars rest) := by
  rw [quote, List.append_assoc, List.cons_append, Utf8.encodeChars_cons,
    Utf8.encodeChars_append]
  rfl

private theorem encodeChars_member (name : String) (first rest : List Char) :
    Utf8.encodeChars (quote name ++ ':' :: first ++ rest) =
      0x22 :: (quotedBytes name ++ 0x22 :: 0x3a ::
        (Utf8.encodeChars first ++ Utf8.encodeChars rest)) := by
  rw [List.append_assoc, encodeChars_quote, List.cons_append,
    Utf8.encodeChars_cons, Utf8.encodeChars_append]
  rfl

private theorem tokens_name (name : String) (rest : Bytes) :
    Token.tokens (0x22 :: (quotedBytes name ++ 0x22 :: 0x3a :: rest)) =
      (Token.tokens rest).map fun more => .string (quotedBytes name) ::
        .colon :: more := by
  rw [tokens_quoted, tokens_punctuation rfl rfl, Option.map_map]
  rfl

private theorem stops_itemsChars (items : List Value) (rest : Bytes) :
    Stops (Utf8.encodeChars (itemsChars items) ++ rest) := by
  cases items with
  | nil => exact stops_cons rfl _
  | cons first others => exact stops_cons rfl _

private theorem stops_membersChars
    (members : List (String × Value)) (rest : Bytes) :
    Stops (Utf8.encodeChars (membersChars members) ++ rest) := by
  cases members with
  | nil => exact stops_cons rfl _
  | cons first others => exact stops_cons rfl _

private theorem map_cons_append (token : Token) (front : List Token)
    (more : Option (List Token)) :
    (more.map (front ++ ·)).map (token :: ·) =
      more.map ((token :: front) ++ ·) := by
  rw [Option.map_map]
  rfl

private theorem map_append_append (front back : List Token)
    (more : Option (List Token)) :
    (more.map (back ++ ·)).map (front ++ ·) =
      more.map ((front ++ back) ++ ·) := by
  cases more with
  | none => rfl
  | some tokens => exact congrArg some (List.append_assoc front back tokens).symm

mutual

/-- A printed value is cut into its tokens, whatever follows, unless that could
go on a number. -/
theorem Value.tokens_bytes (value : Value) {rest : Bytes} (stops : Stops rest) :
    Token.tokens (Utf8.encodeChars value.chars ++ rest) =
      (Token.tokens rest).map (value.tokens ++ ·) := by
  cases value with
  | null => exact tokens_null rest
  | bool value =>
      cases value with
      | true => exact tokens_true rest
      | false => exact tokens_false rest
  | number value => exact tokens_number value stops
  | string text =>
      have whole := encodeChars_quote text []
      rw [List.append_nil] at whole
      rw [Value.chars, whole, List.cons_append, List.append_assoc]
      exact tokens_quoted text rest
  | array items =>
      cases items with
      | nil =>
          change Token.tokens (0x5b :: 0x5d :: rest) = _
          rw [tokens_punctuation rfl rfl, tokens_punctuation rfl rfl,
            Option.map_map]
          rfl
      | cons first others =>
          rw [Value.chars, List.cons_append, Utf8.encodeChars_cons,
            Utf8.encodeChars_append]
          change Token.tokens
            (0x5b :: ((Utf8.encodeChars first.chars ++ _) ++ rest)) = _
          rw [tokens_punctuation rfl rfl, List.append_assoc,
            first.tokens_bytes (stops_itemsChars others rest),
            itemsTokens_bytes others rest, map_append_append, map_cons_append]
          rfl
  | object members =>
      cases members with
      | nil =>
          change Token.tokens (0x7b :: 0x7d :: rest) = _
          rw [tokens_punctuation rfl rfl, tokens_punctuation rfl rfl,
            Option.map_map]
          rfl
      | cons member others =>
          obtain ⟨name, first⟩ := member
          rw [Value.chars, List.cons_append, List.cons_append,
            Utf8.encodeChars_cons, encodeChars_member]
          change Token.tokens (0x7b :: 0x22 ::
            ((quotedBytes name ++ 0x22 :: 0x3a :: _) ++ rest)) = _
          rw [tokens_punctuation rfl rfl, List.append_assoc, List.cons_append,
            List.cons_append, tokens_name,
            List.append_assoc, first.tokens_bytes
              (stops_membersChars others rest), membersTokens_bytes others rest,
            map_append_append, Option.map_map, Option.map_map]
          rfl

theorem itemsTokens_bytes (items : List Value) (rest : Bytes) :
    Token.tokens (Utf8.encodeChars (itemsChars items) ++ rest) =
      (Token.tokens rest).map (itemsTokens items ++ ·) := by
  cases items with
  | nil => exact tokens_punctuation rfl rfl rest
  | cons first others =>
      rw [itemsChars, List.cons_append, Utf8.encodeChars_cons,
        Utf8.encodeChars_append]
      change Token.tokens
        (0x2c :: ((Utf8.encodeChars first.chars ++ _) ++ rest)) = _
      rw [tokens_punctuation rfl rfl, List.append_assoc,
        first.tokens_bytes (stops_itemsChars others rest),
        itemsTokens_bytes others rest, map_append_append, map_cons_append]
      rfl

theorem membersTokens_bytes (members : List (String × Value)) (rest : Bytes) :
    Token.tokens (Utf8.encodeChars (membersChars members) ++ rest) =
      (Token.tokens rest).map (membersTokens members ++ ·) := by
  cases members with
  | nil => exact tokens_punctuation rfl rfl rest
  | cons member others =>
      obtain ⟨name, first⟩ := member
      rw [membersChars, List.cons_append, List.cons_append,
        Utf8.encodeChars_cons, encodeChars_member]
      change Token.tokens
        (0x2c :: 0x22 :: ((quotedBytes name ++ 0x22 :: 0x3a :: _) ++ rest)) = _
      rw [tokens_punctuation rfl rfl, List.append_assoc, List.cons_append,
        List.cons_append, tokens_name,
        List.append_assoc, first.tokens_bytes (stops_membersChars others rest),
        membersTokens_bytes others rest,
        map_append_append, Option.map_map, Option.map_map]
      rfl

end

/-! ### Trees -/

mutual

/-- The machine reads a printed value wherever one may stand, and leaves its
stack as it was. -/
theorem Value.read_tokens (value : Value) (stack : List Tree.Frame)
    {expect : Tree.Expect} (wanted : expect = .value ∨ expect = .valueOrEnd) :
    value.tokens.foldlM Tree.State.step ⟨expect, stack⟩ =
      some ⟨.after value.tree, stack⟩ := by
  cases value with
  | null => rcases wanted with same | same <;> rw [same] <;> rfl
  | bool value => rcases wanted with same | same <;> rw [same] <;> rfl
  | number value => rcases wanted with same | same <;> rw [same] <;> rfl
  | string text => rcases wanted with same | same <;> rw [same] <;> rfl
  | array items =>
      have opened : Tree.State.step ⟨expect, stack⟩ .openBracket =
          some ⟨.valueOrEnd, .items [] :: stack⟩ := by
        rcases wanted with same | same <;> rw [same] <;> rfl
      cases items with
      | nil =>
          rw [Value.tokens, List.foldlM_cons, opened]
          rfl
      | cons first others =>
          rw [Value.tokens, List.foldlM_cons, opened]
          change (first.tokens ++ itemsTokens others).foldlM Tree.State.step
            ⟨.valueOrEnd, .items [] :: stack⟩ = _
          rw [List.foldlM_append, first.read_tokens _ (.inr rfl)]
          exact itemsTokens_read others [] first.tree stack
  | object members =>
      have opened : Tree.State.step ⟨expect, stack⟩ .openBrace =
          some ⟨.nameOrEnd, stack⟩ := by
        rcases wanted with same | same <;> rw [same] <;> rfl
      cases members with
      | nil =>
          rw [Value.tokens, List.foldlM_cons, opened]
          rfl
      | cons member others =>
          obtain ⟨name, first⟩ := member
          rw [Value.tokens, List.foldlM_cons, opened]
          change (first.tokens ++ membersTokens others).foldlM Tree.State.step
            ⟨.value, .members [] (quotedBytes name) :: stack⟩ = _
          rw [List.foldlM_append, first.read_tokens _ (.inl rfl)]
          exact membersTokens_read others [] (quotedBytes name) first.tree stack

theorem itemsTokens_read (items : List Value) (done : List Tree) (last : Tree)
    (stack : List Tree.Frame) :
    (itemsTokens items).foldlM Tree.State.step ⟨.after last,
      .items done :: stack⟩ =
      some ⟨.after (.array ((last :: done).reverse ++ itemTrees items)),
        stack⟩ := by
  cases items with
  | nil =>
      rw [itemTrees, List.append_nil]
      rfl
  | cons first others =>
      change (first.tokens ++ itemsTokens others).foldlM Tree.State.step
        ⟨.value, .items (last :: done) :: stack⟩ = _
      rw [List.foldlM_append, first.read_tokens _ (.inl rfl)]
      refine (itemsTokens_read others (last :: done) first.tree stack).trans ?_
      rw [List.reverse_cons, List.append_assoc]
      rfl

theorem membersTokens_read (members : List (String × Value))
    (done : List (Bytes × Tree)) (name : Bytes) (last : Tree)
    (stack : List Tree.Frame) :
    (membersTokens members).foldlM Tree.State.step ⟨.after last,
      .members done name :: stack⟩ =
      some ⟨.after (.object (((name, last) :: done).reverse
        ++ memberTrees members)), stack⟩ := by
  cases members with
  | nil =>
      rw [memberTrees, List.append_nil]
      rfl
  | cons member others =>
      obtain ⟨nextName, first⟩ := member
      change (first.tokens ++ membersTokens others).foldlM Tree.State.step
        ⟨.value, .members ((name, last) :: done)
          (quotedBytes nextName) :: stack⟩ = _
      rw [List.foldlM_append, first.read_tokens _ (.inl rfl)]
      refine (membersTokens_read others ((name, last) :: done)
        (quotedBytes nextName) first.tree stack).trans ?_
      rw [List.reverse_cons, List.append_assoc]
      rfl

end

theorem Value.parse?_bytes (value : Value) :
    Tree.parse? value.bytes = some value.tree := by
  have cut := value.tokens_bytes stops_nil
  rw [List.append_nil, tokens_nil, Option.map_some, List.append_nil] at cut
  rw [Tree.parse?, Value.bytes, cut, Option.bind_some, Tree.ofTokens?,
    value.read_tokens [] (.inl rfl)]

theorem Value.bytes_ne_nil (value : Value) : value.bytes ≠ [] := by
  intro empty
  have read := value.parse?_bytes
  rw [empty, Tree.parse?, tokens_nil] at read
  cases read

end BoundKey.Json
