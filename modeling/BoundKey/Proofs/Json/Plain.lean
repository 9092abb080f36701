import BoundKey.Json.Record
import BoundKey.Proofs.Json.Members

set_option autoImplicit false

/-!
Values that are read back as themselves. A value has one printed form, but
several values can have the same meaning: an object lists its members in some
order, and a name may come twice. The values in which every object is ordered by
name and every number is an integer of 64 bits are the ones that reading yields,
and of these each is read back from its text as it was, as long as it is not
nested too deep.
-/

namespace BoundKey.Json

/-- A value without fractions, its integers of 64 bits and its objects ordered
by name, with at most so many arrays and objects inside one another. -/
inductive Value.IsPlain : Nat → Value → Prop where
  | null {depth : Nat} : IsPlain depth .null
  | bool {depth : Nat} (value : Bool) : IsPlain depth (.bool value)
  | int {depth : Nat} {value : Int} (low : -2 ^ 63 ≤ value)
      (high : value < 2 ^ 64) : IsPlain depth (.number (.int value))
  | string {depth : Nat} (text : String) : IsPlain depth (.string text)
  | array {depth : Nat} {items : List Value}
      (plain : ∀ item ∈ items, IsPlain depth item) :
      IsPlain (depth + 1) (.array items)
  | object {depth : Nat} {members : List (String × Value)}
      (ordered : members.Pairwise fun member later => member.1 < later.1)
      (plain : ∀ member ∈ members, IsPlain depth member.2) :
      IsPlain (depth + 1) (.object members)

/-! ### Members in order -/

theorem Value.insert_last {name : String} (value : Value)
    {ordered : List (String × Value)}
    (later : ∀ member ∈ ordered, member.1 < name) :
    insert name value ordered = ordered ++ [(name, value)] := by
  induction ordered with
  | nil => rfl
  | cons member rest ih =>
      obtain ⟨other, present⟩ := member
      have before : other < name := later (other, present) List.mem_cons_self
      have differs : name ≠ other := by
        intro same
        exact String.lt_irrefl other (same ▸ before)
      rw [insert, if_neg differs, if_neg (String.lt_asymm before),
        ih fun member listed => later member (List.mem_cons_of_mem _ listed)]
      rfl

theorem Value.ofMembers_of_ordered {members : List (String × Value)}
    (ordered : members.Pairwise fun member later => member.1 < later.1) :
    ofMembers members = .object members := by
  suffices placed : ∀ done : List (String × Value),
      (done ++ members).Pairwise (fun member later => member.1 < later.1) →
      members.foldl (fun ordered member => insert member.1 member.2 ordered)
        done = done ++ members from
    congrArg Value.object (placed [] ordered)
  clear ordered
  intro done whole
  induction members generalizing done with
  | nil => exact (List.append_nil done).symm
  | cons member rest ih =>
      obtain ⟨name, value⟩ := member
      have later : ∀ other ∈ done, other.1 < name := by
        intro other listed
        exact (List.pairwise_append.1 whole).2.2 other listed (name, value)
          List.mem_cons_self
      rw [List.append_cons] at whole
      rw [List.foldl_cons, Value.insert_last value later,
        ih (done ++ [(name, value)]) whole, ← List.append_cons]

/-! ### Values from printed trees -/

theorem itemValues?_itemTrees {depth : Nat} {items : List Value}
    (read : ∀ item ∈ items, item.tree.toValue? depth = some item) :
    itemValues? depth (itemTrees items) = some items := by
  induction items with
  | nil => rfl
  | cons first rest ih =>
      rw [itemTrees, itemValues?, read first List.mem_cons_self,
        Option.bind_eq_bind, Option.bind_some,
        ih fun item listed => read item (List.mem_cons_of_mem first listed)]
      rfl

theorem memberValues?_memberTrees {depth : Nat} {members : List (String × Value)}
    (read : ∀ member ∈ members, member.2.tree.toValue? depth = some member.2) :
    memberValues? depth (memberTrees members) = some members := by
  induction members with
  | nil => rfl
  | cons member rest ih =>
      obtain ⟨name, first⟩ := member
      rw [memberTrees, memberValues?, decodeString_quotedBytes,
        Option.bind_eq_bind, Option.bind_some,
        read (name, first) List.mem_cons_self, Option.bind_eq_bind,
        Option.bind_some, ih fun member listed =>
          read member (List.mem_cons_of_mem _ listed)]
      rfl

theorem Value.IsPlain.toValue?_tree {depth : Nat} {value : Value}
    (plain : value.IsPlain depth) : value.tree.toValue? depth = some value := by
  induction plain with
  | null => rfl
  | bool value => rfl
  | int low high =>
      rw [Value.tree, Tree.toValue?, Number.ofLiteral?_int low high]
      rfl
  | string text =>
      rw [Value.tree, Tree.toValue?, decodeString_quotedBytes]
      rfl
  | @array depth items _ read =>
      rw [Value.tree, Tree.toValue?, if_neg (Nat.succ_ne_zero depth),
        Nat.add_sub_cancel, itemValues?_itemTrees read]
      rfl
  | @object depth members ordered _ read =>
      rw [Value.tree, Tree.toValue?, if_neg (Nat.succ_ne_zero depth),
        Nat.add_sub_cancel, memberValues?_memberTrees read, Option.map_some,
        Value.ofMembers_of_ordered ordered]

/-- A plain value is read back from its text. -/
theorem Value.IsPlain.decode?_render
    {value : Value} (plain : value.IsPlain maxDepth) :
    decode? (Utf8.encode value.render) = some value :=
  decode?_encode plain.toValue?_tree

theorem Value.IsPlain.eq_of_render
    {value other : Value} (plain : value.IsPlain maxDepth)
    (otherPlain : other.IsPlain maxDepth) (same : value.render = other.render) :
    value = other := by
  apply Option.some.inj
  rw [← plain.decode?_render, same, otherPlain.decode?_render]

def Value.nested : Nat → Value
  | 0 => .array []
  | count + 1 => .array [nested count]

theorem Value.nested_isPlain (count : Nat) :
    (nested count).IsPlain (count + 1) := by
  induction count with
  | zero => exact .array fun item listed => absurd listed List.not_mem_nil
  | succ count ih =>
      apply IsPlain.array
      intro item listed
      rw [List.mem_singleton.1 listed]
      exact ih

end BoundKey.Json
