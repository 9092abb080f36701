import BoundKey.Proofs.Json.Members

set_option autoImplicit false

/-!
The text of an object, written down member by member. A printed object is its
members' texts between braces, joined by commas, each under its quoted name; no
white space is put between them. Read back, it has these names in this order,
and it has the token `null` only where one of its members has.
-/

namespace BoundKey

/-! ### Numbers -/

namespace Decimal

theorem digits_eq_toDigits (number : Nat) :
    digits number = Nat.toDigits 10 number := by
  induction number using Nat.strongRecOn with
  | ind number ih =>
      have digit_eq {small : Nat} (below : small < 10) :
          digit small = small.digitChar := by
        have table : ∀ place : Fin 10, digit place = Nat.digitChar place := by
          decide
        exact table ⟨small, below⟩
      rw [digits, Nat.toDigits_eq_if (by decide)]
      split
      · next below => rw [digit_eq below]
      · next large => rw [ih (number / 10) (by omega),
          digit_eq (Nat.mod_lt number (by decide))]

theorem ofList_chars (value : Int) :
    String.ofList (chars value) = toString value := by
  cases value with
  | ofNat number =>
      rw [chars, digits_eq_toDigits]
      rfl
  | negSucc number =>
      rw [chars, digits_eq_toDigits, ← String.toList_inj, String.toList_ofList]
      change _ = ("-" ++ Nat.repr (number + 1)).toList
      simp

end Decimal

namespace Json

/-! ### Texts -/

/-- A text between quotes, its own quotes, its backslashes and its control
characters escaped. -/
def quoted (text : String) : String :=
  String.ofList (quote text)

def objectText (members : List (String × String)) : String :=
  "\x7b" ++ ",".intercalate
    (members.map fun (name, text) => quoted name ++ ":" ++ text) ++ "\x7d"

@[simp] theorem render_string (text : String) :
    (Value.string text).render = quoted text := rfl

@[simp] theorem render_int (value : Int) :
    (Value.int value).render = toString value :=
  Decimal.ofList_chars value

private theorem ofList_membersChars (members : List (String × Value))
    (first : String) : first ++ String.ofList (membersChars members) =
      ",".intercalate (first :: members.map fun (name, value) =>
      quoted name ++ ":" ++ value.render) ++ "\x7d" := by
  induction members generalizing first with
  | nil => rw [List.map_nil, String.intercalate_singleton]; rfl
  | cons member rest ih =>
      obtain ⟨name, value⟩ := member
      have front : String.ofList (membersChars ((name, value) :: rest)) =
          "," ++ ((quoted name ++ ":" ++ value.render)
            ++ String.ofList (membersChars rest)) := by
        rw [← String.toList_inj]
        simp [membersChars, quoted, Value.render]
      rw [front, ih, List.map_cons, String.intercalate_cons_cons]
      simp only [String.append_assoc]

theorem render_object (members : List (String × Value)) :
    (Value.object members).render =
      objectText (members.map fun (name, value) => (name, value.render)) := by
  have joined : (members.map fun (name, value) => (name, value.render)).map
      (fun (name, text) => quoted name ++ ":" ++ text) =
        members.map fun (name, value) => quoted name ++ ":" ++ value.render := by
    rw [List.map_map]
    rfl
  rw [objectText, joined]
  cases members with
  | nil => rfl
  | cons member rest =>
      obtain ⟨name, value⟩ := member
      rw [List.map_cons, String.append_assoc, ← ofList_membersChars,
        ← String.toList_inj]
      simp [Value.render, Value.chars, quoted]

example : objectText [("a", "1"), ("b", quoted "\"\n")] =
    "\x7b\"a\":1,\"b\":\"\\\"\\n\"\x7d" := by
  decide

def presentTexts (members : List (String × Option Value)) :
    List (String × String) :=
  (presentMembers members).map fun (name, value) => (name, value.render)

theorem render_ofPresent (members : List (String × Option Value)) :
    (Value.ofPresent members).render = objectText (presentTexts members) :=
  render_object (presentMembers members)

theorem names_presentTexts (members : List (String × Option Value)) :
    ((presentTexts members).map Prod.fst).Sublist (members.map Prod.fst) := by
  have names : (presentTexts members).map Prod.fst =
      (presentMembers members).map Prod.fst := by
    rw [presentTexts, List.map_map]
    rfl
  rw [names]
  exact names_presentMembers members

theorem lookup_presentTexts {members : List (String × Option Value)}
    (distinct : (members.map Prod.fst).Nodup)
    (name : String) : (presentTexts members).lookup name =
      (members.lookup name).join.map Value.render := by
  rw [presentTexts, lookup_map_values, lookup_presentMembers distinct]

/-! ### Texts read back -/

/-- A text of an object that lists members of these names in this order, and has
`null` nowhere in it. -/
def ListsNames (text : Bytes) (names : List String) : Prop :=
  (∃ trees members, Tree.parse? text = some (.object trees) ∧
    namedMembers? trees = some members ∧
    members.map Prod.fst = names) ∧
  ∃ tokens, Token.tokens text = some tokens ∧ Token.null ∉ tokens

/-- A value that is absent, or in which `null` stands nowhere. -/
def WithoutNull (value : Option Value) : Prop :=
  ∀ present, value = some present → Token.null ∉ present.tokens

theorem withoutNull_some {value : Value} :
    WithoutNull (some value) ↔ Token.null ∉ value.tokens := by
  simp [WithoutNull]

theorem withoutNull_text (text : Option String) :
    WithoutNull (text.map .string) := by
  intro value same
  rcases Option.map_eq_some_iff.1 same with ⟨content, _, rfl⟩
  simp [Value.tokens]

theorem withoutNull_int (value : Int) : WithoutNull (some (.int value)) := by
  simp [WithoutNull, Value.int, Value.tokens]

private theorem null_notMem_membersTokens {members : List (String × Value)}
    (each : ∀ name value, (name, value) ∈ members → Token.null ∉ value.tokens) :
    Token.null ∉ membersTokens members := by
  induction members with
  | nil => simp [membersTokens]
  | cons member rest ih =>
      obtain ⟨name, value⟩ := member
      have first := each name value List.mem_cons_self
      have later := ih fun other otherValue listed =>
        each other otherValue (List.mem_cons_of_mem _ listed)
      simp [membersTokens, first, later]

/-- In a printed object there is no `null` but in its members. -/
theorem null_notMem_object {members : List (String × Value)}
    (each : ∀ name value, (name, value) ∈ members → Token.null ∉ value.tokens) :
    Token.null ∉ (Value.object members).tokens := by
  cases members with
  | nil => simp [Value.tokens]
  | cons member rest =>
      obtain ⟨name, value⟩ := member
      have first := each name value List.mem_cons_self
      have later := null_notMem_membersTokens fun other otherValue listed =>
        each other otherValue (List.mem_cons_of_mem (name, value) listed)
      simp [Value.tokens, first, later]

theorem withoutNull_ofPresent {members : List (String × Option Value)}
    (each : ∀ member ∈ members, WithoutNull member.2) :
    WithoutNull (some (.ofPresent members)) :=
  withoutNull_some.2 (null_notMem_object fun name value listed =>
    each (name, some value) (mem_presentMembers.1 listed) value rfl)

theorem listsNames_ofPresent {members : List (String × Option Value)}
    (each : ∀ member ∈ members, WithoutNull member.2) :
    ListsNames (Utf8.encode (objectText (presentTexts members)))
      ((presentTexts members).map Prod.fst) := by
  rw [← render_ofPresent, Value.encode_render]
  constructor
  · refine ⟨_, _, (Value.ofPresent members).parse?_bytes.trans
      (congrArg some (tree_ofPresent members)), namedMembers?_memberTrees _, ?_⟩
    rw [presentTexts, List.map_map, List.map_map]
    rfl
  · have cut := (Value.ofPresent members).tokens_bytes stops_nil
    rw [List.append_nil, tokens_nil, Option.map_some, List.append_nil] at cut
    exact ⟨_, cut, withoutNull_some.1 (withoutNull_ofPresent each)⟩

end Json

end BoundKey
