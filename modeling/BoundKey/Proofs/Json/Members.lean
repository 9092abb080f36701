import BoundKey.Proofs.Json.Printed

set_option autoImplicit false

/-!
Records read back from the objects that were printed for them. An object lists
the members that are present; as long as no name is listed twice, reading a
member gives what was printed under its name, and an absent member reads as
absent.
-/

namespace BoundKey.Json

def presentMembers (members : List (String × Option Value)) :
    List (String × Value) :=
  members.filterMap fun (name, value) => value.map fun present => (name, present)

def presentTrees (members : List (String × Option Value)) :
    List (String × Tree) :=
  members.filterMap fun (name, value) =>
    value.map fun present => (name, present.tree)

def printedRecord (depth : Nat) (members : List (String × Option Value)) :
    Record :=
  ⟨depth, presentTrees members⟩

/-! ### Members of printed objects -/

theorem tree_ofPresent (members : List (String × Option Value)) :
    (Value.ofPresent members).tree =
      .object (memberTrees (presentMembers members)) := by
  rw [Value.ofPresent, Value.tree]
  rfl

theorem presentTrees_some (name : String) (value : Value)
    (members : List (String × Option Value)) :
    presentTrees ((name, some value) :: members) =
      (name, value.tree) :: presentTrees members := rfl

theorem presentTrees_eq (members : List (String × Option Value)) :
    presentTrees members =
      (presentMembers members).map fun (name, value) => (name, value.tree) := by
  rw [presentTrees, presentMembers, List.map_filterMap]
  refine congrArg (List.filterMap · members) (funext fun (name, value) => ?_)
  rw [Option.map_map]
  rfl

theorem namedMembers?_memberTrees (members : List (String × Value)) :
    namedMembers? (memberTrees members) =
      some (members.map fun (name, value) => (name, value.tree)) := by
  induction members with
  | nil => rfl
  | cons member rest ih =>
      obtain ⟨name, value⟩ := member
      rw [memberTrees, namedMembers?, decodeString_quotedBytes,
        Option.bind_eq_bind, Option.bind_some, ih]
      rfl

theorem namedMembers?_presentMembers (members : List (String × Option Value)) :
    namedMembers? (memberTrees (presentMembers members)) =
      some (presentTrees members) := by
  rw [namedMembers?_memberTrees, presentTrees_eq]

theorem names_presentMembers (members : List (String × Option Value)) :
    ((presentMembers members).map Prod.fst).Sublist (members.map Prod.fst) := by
  induction members with
  | nil => exact List.Sublist.slnil
  | cons member rest ih =>
      obtain ⟨name, value⟩ := member
      cases value with
      | none => exact ih.cons name
      | some value => exact ih.cons_cons name

theorem names_presentTrees (members : List (String × Option Value)) :
    ((presentTrees members).map Prod.fst).Sublist (members.map Prod.fst) := by
  have names : (presentTrees members).map Prod.fst =
      (presentMembers members).map Prod.fst := by
    rw [presentTrees_eq, List.map_map]
    rfl
  rw [names]
  exact names_presentMembers members

theorem mem_presentMembers {members : List (String × Option Value)}
    {name : String} {value : Value} :
    (name, value) ∈ presentMembers members ↔ (name, some value) ∈ members := by
  rw [presentMembers, List.mem_filterMap]
  constructor
  · rintro ⟨⟨other, optional⟩, member, same⟩
    obtain ⟨present, rfl, same⟩ := Option.map_eq_some_iff.1 same
    cases same
    exact member
  · intro member
    exact ⟨_, member, rfl⟩

theorem mem_presentTrees {members : List (String × Option Value)}
    {pair : String × Tree} (present : pair ∈ presentTrees members) :
    ∃ value, (pair.1, some value) ∈ members ∧ pair.2 = value.tree := by
  rw [presentTrees_eq] at present
  obtain ⟨⟨name, value⟩, member, rfl⟩ := List.mem_map.1 present
  exact ⟨value, mem_presentMembers.1 member, rfl⟩

private theorem lookup_presentMembers_absent
    {members : List (String × Option Value)} {name : String}
    (absent : name ∉ members.map Prod.fst) :
    (presentMembers members).lookup name = none := by
  rw [List.lookup_eq_none_iff]
  intro pair member
  have listed :=
    (names_presentMembers members).subset (List.mem_map_of_mem member)
  rw [bne_iff_ne]
  intro same
  exact absent (same ▸ listed)

theorem lookup_presentMembers {members : List (String × Option Value)}
    (distinct : (members.map Prod.fst).Nodup)
    (name : String) :
    (presentMembers members).lookup name = (members.lookup name).join := by
  induction members with
  | nil => rfl
  | cons member rest ih =>
      obtain ⟨other, value⟩ := member
      obtain ⟨fresh, restDistinct⟩ := List.nodup_cons.1 distinct
      by_cases same : name = other
      · subst same
        rw [List.lookup_cons_self]
        cases value with
        | none =>
            exact (lookup_presentMembers_absent fresh :
              (presentMembers rest).lookup name = none)
        | some value => exact List.lookup_cons_self
      · have different : (name == other) = false := beq_eq_false_iff_ne.2 same
        rw [List.lookup_cons, different]
        cases value with
        | none => exact ih restDistinct
        | some value =>
            have front : presentMembers ((other, some value) :: rest) =
                (other, value) :: presentMembers rest := rfl
            rw [front, List.lookup_cons, different]
            exact ih restDistinct

theorem lookup_map_values {α β : Type} (change : α → β) (name : String)
    (members : List (String × α)) :
    (members.map fun (other, value) => (other, change value)).lookup name =
      (members.lookup name).map change := by
  induction members with
  | nil => rfl
  | cons member rest ih =>
      obtain ⟨other, value⟩ := member
      rw [List.map_cons, List.lookup_cons, List.lookup_cons]
      cases name == other with
      | true => rfl
      | false => exact ih

theorem lookup_presentTrees {members : List (String × Option Value)}
    (distinct : (members.map Prod.fst).Nodup)
    (name : String) : (presentTrees members).lookup name =
      (members.lookup name).join.map Value.tree := by
  rw [presentTrees_eq, lookup_map_values, lookup_presentMembers distinct]

/-! ### Records -/

private theorem knownMembers?_presentTrees
    {names : List String} {members : List (String × Option Value)}
    (distinct : (members.map Prod.fst).Nodup)
    (known : ∀ name ∈ members.map Prod.fst, name ∈ names) :
    knownMembers? names (presentTrees members) = some (presentTrees members) := by
  have all : ∀ pair ∈ presentTrees members, names.contains pair.1 = true := by
    intro pair member
    have listed :=
      (names_presentTrees members).subset (List.mem_map_of_mem member)
    exact List.contains_iff_mem.2 (known pair.1 listed)
  rw [knownMembers?, List.filter_eq_self.2 all]
  exact if_pos (distinct.sublist (names_presentTrees members))

theorem record?_ofPresent {names : List String}
    {members : List (String × Option Value)}
    (distinct : (members.map Prod.fst).Nodup)
    (known : ∀ name ∈ members.map Prod.fst, name ∈ names) (depth : Nat) :
    (Value.ofPresent members).tree.record? names (depth + 1) =
      some (printedRecord depth members) := by
  rw [tree_ofPresent, Tree.record?, if_neg (Nat.succ_ne_zero depth),
    namedMembers?_presentMembers, Option.bind_some,
    knownMembers?_presentTrees distinct known]
  rfl

theorem taggedRecord?_ofPresent {tag kind : String} {names : List String}
    {members : List (String × Option Value)}
    (distinct : (members.map Prod.fst).Nodup)
    (known : ∀ name ∈ members.map Prod.fst, name ∈ names)
    (untagged : tag ∉ names) {depth : Nat}
    (values : ∀ name value, (name, some value) ∈ members →
      (value.tree.toValue? depth).isSome = true) :
    (Value.ofPresent ((tag, some (.string kind)) :: members)).tree.taggedRecord?
      tag names (depth + 1) = some (kind, printedRecord depth members) := by
  have differs : ∀ pair ∈ presentTrees members, pair.1 ≠ tag := by
    intro pair member same
    have listed :=
      (names_presentTrees members).subset (List.mem_map_of_mem member)
    exact untagged (same ▸ known pair.1 listed)
  have tagged (content : Tree) :
      ((tag, content) :: presentTrees members).filter
        (fun pair => pair.1 == tag) = [(tag, content)] := by
    rw [List.filter_cons, if_pos (beq_self_eq_true tag)]
    refine congrArg _ (List.filter_eq_nil_iff.2 ?_)
    intro pair member same
    exact differs pair member (beq_iff_eq.1 same)
  have others (content : Tree) :
      ((tag, content) :: presentTrees members).filter
        (fun pair => pair.1 != tag) = presentTrees members := by
    have dropped : ¬ (tag != tag) = true := fun differ => bne_iff_ne.1 differ rfl
    rw [List.filter_cons, if_neg dropped, List.filter_eq_self]
    intro pair member
    exact bne_iff_ne.2 (differs pair member)
  have readable : (presentTrees members).all
      (fun pair => (pair.2.toValue? depth).isSome) = true := by
    rw [List.all_eq_true]
    intro pair member
    obtain ⟨value, listed, same⟩ := mem_presentTrees member
    rw [same]
    exact values pair.1 value listed
  rw [tree_ofPresent, Tree.taggedRecord?, if_neg (Nat.succ_ne_zero depth)]
  dsimp only
  rw [namedMembers?_presentMembers, presentTrees_some, Option.bind_eq_bind,
    Option.bind_some, tagged, others, Value.tree]
  dsimp only
  rw [decodeString_quotedBytes, Option.bind_eq_bind, Option.bind_some,
    Nat.add_sub_cancel, if_pos readable,
    knownMembers?_presentTrees distinct known]
  rfl

/-! ### Reading members -/

/-- The tree that a reader takes for `null`, and no other printed value has
it. -/
theorem tree_ne_null {value : Value} (present : value ≠ .null) :
    value.tree ≠ .null := by
  cases value with
  | null => exact absurd rfl present
  | _ => exact Tree.noConfusion

theorem required_printed {α : Type} {members : List (String × Option Value)}
    (distinct : (members.map Prod.fst).Nodup) (depth : Nat)
    {name : String} {value : Value}
    (printed : members.lookup name = some (some value)) (reader : Reader α) :
    (printedRecord depth members).required name reader =
      reader depth value.tree := by
  rw [Record.required, Record.find?, printedRecord,
    lookup_presentTrees distinct, printed]
  rfl

theorem optional_printed {α : Type} {members : List (String × Option Value)}
    (distinct : (members.map Prod.fst).Nodup) (depth : Nat) {name : String}
    {value : Option Value} (printed : members.lookup name = some value)
    {reader : Reader α} {thing : Option α}
    (read : ∀ present ∈ value, present ≠ .null ∧
      (reader depth present.tree).map some = some thing)
    (absent : value = none → thing = none) :
    (printedRecord depth members).optional name reader = some thing := by
  rw [Record.optional, Record.find?, printedRecord,
    lookup_presentTrees distinct, printed]
  cases value with
  | none => rw [absent rfl]; rfl
  | some value =>
      obtain ⟨present, same⟩ := read value rfl
      have notNull := tree_ne_null present
      rw [Option.join_some, Option.map_some]
      split
      · next missing => cases missing
      · next null => exact absurd (Option.some.inj null) notNull
      · next tree found =>
          cases found
          exact same

theorem Reader.text_tree (depth : Nat) (text : String) :
    Reader.text depth (Value.string text).tree = some text := by
  rw [Value.tree]
  exact decodeString_quotedBytes text

theorem Reader.integer_tree (depth : Nat) {low high value : Int}
    (lower : low ≤ value) (upper : value ≤ high)
    (signed : -2 ^ 63 ≤ value) (unsigned : value < 2 ^ 64) :
    Reader.integer low high depth (Value.int value).tree = some value := by
  have printed : (Value.int value).tree = .number (Number.int value).bytes := rfl
  rw [printed, Reader.integer, Number.ofLiteral?_int signed unsigned]
  exact if_pos ⟨lower, upper⟩

theorem Reader.signed_tree (depth : Nat) {value : Int} (lower : -2 ^ 63 ≤ value)
    (upper : value < 2 ^ 63) :
    Reader.signed depth (Value.int value).tree = some value := by
  exact Reader.integer_tree depth lower (by omega) lower (by omega)

theorem optional_text {members : List (String × Option Value)}
    (distinct : (members.map Prod.fst).Nodup) (depth : Nat)
    {name : String} {text : Option String}
    (printed : members.lookup name = some (text.map .string)) :
    (printedRecord depth members).optional name Reader.text = some text := by
  apply optional_printed distinct depth printed
  · intro present found
    obtain ⟨content, same, printedText⟩ := Option.map_eq_some_iff.1 found
    rw [same, ← printedText, Reader.text_tree]
    exact ⟨Value.noConfusion, rfl⟩
  · intro absent
    exact Option.map_eq_none_iff.1 absent

theorem required_text {members : List (String × Option Value)}
    (distinct : (members.map Prod.fst).Nodup) (depth : Nat)
    {name text : String}
    (printed : members.lookup name = some (some (.string text))) :
    (printedRecord depth members).required name Reader.text = some text := by
  rw [required_printed distinct depth printed, Reader.text_tree]

/-- What is read from the tree that a thing is printed as is read from its
text. -/
theorem decode?_encode {α : Type} [Codec α] {thing : α}
    (read : Codec.read? maxDepth (Codec.toValue thing).tree = some thing) :
    decode? (Utf8.encode (encode thing)) = some thing := by
  rw [decode?, encode, Value.encode_render, Value.parse?_bytes,
    Option.bind_some, read]

theorem encode_inj {α : Type} [Codec α] {thing other : α}
    (read : Codec.read? maxDepth (Codec.toValue thing).tree = some thing)
    (otherRead : Codec.read? maxDepth (Codec.toValue other).tree = some other) :
    encode thing = encode other ↔ thing = other := by
  constructor
  · intro same
    have decoded := decode?_encode read
    rw [same, decode?_encode otherRead] at decoded
    exact (Option.some.inj decoded).symm
  · exact congrArg encode

end BoundKey.Json
