import BoundKey.Proofs.Program
import BoundKey.Proofs.Text.Blank
import BoundKey.Url.Basic

set_option autoImplicit false

/-!
The host and the port of a URL. Which part of a text they come from depends on
the kind of URL; what the text says beyond that part only matters for a file,
whose path may begin with a drive.
-/

namespace BoundKey.Url

def port? (url : Url) : Option Nat :=
  url.authority.bind (·.port)

/-! ### Authorities -/

def splitPlace (area : List Char) : List Char × List Char :=
  splitHost false ((splitLast? '@' area).getD ([], area)).2

def readHost (isSpecial : Bool) (text : List Char) : Except Fault Host :=
  if isSpecial then Host.ofSpecial text else Host.ofOther text

/-- An authority names a host and a port. -/
structure AreaNames (scheme : List Char) (isSpecial : Bool) (area : List Char)
    (host : Host) (port : Option Nat) : Prop where
  present : (splitPlace area).1 ≠ []
  isHost : readHost isSpecial (splitPlace area).1 = .ok host
  isPort : readPort scheme (((splitPlace area).2.drop 1).takeWhile (· ≠ '\\')) =
    .ok port

variable {scheme area : List Char} {isSpecial endsText : Bool}

private theorem readAuthority_of_present (present : (splitPlace area).1 ≠ []) :
    readAuthority scheme isSpecial endsText area = (do
      let host ← readHost isSpecial (splitPlace area).1
      let port ← readPort scheme
          (((splitPlace area).2.drop 1).takeWhile (· ≠ '\\'))
      .ok (⟨credentialsText ((splitLast? '@' area).getD ([], area)).1,
        some host, port⟩, ((splitPlace area).2.drop 1).dropWhile
          (· ≠ '\\'))) := by
  have noSign : ¬ (area = ['@'] ∧ ¬ endsText = true) := by
    rintro ⟨rfl, -⟩
    exact present rfl
  have noneEmpty : (splitPlace area).1.isEmpty = false := by
    rw [← Bool.not_eq_true, List.isEmpty_iff]
    exact present
  unfold readAuthority readHost
  unfold splitPlace at noneEmpty ⊢
  simp only [noneEmpty, Bool.false_eq_true, and_false, false_and,
    if_false, if_neg noSign]
  split <;> rfl

-- What comes to an end has passed a check in front of it.
private theorem passed {α β : Type} {refused : Prop} [Decidable refused]
    {fault : Fault} {next : α → Except Fault β}
    {rest : Except Fault β} {value : β}
    (found : (if refused then (throw fault : Except Fault α) >>= next
      else rest) = .ok value) : rest = .ok value := by
  split at found
  · cases found
  · exact found

private theorem readAuthority_of_absent {authority : Authority}
    {left : List Char} (absent : (splitPlace area).1 = [])
    (read : readAuthority scheme isSpecial endsText area =
      .ok (authority, left)) : authority.host = none := by
  unfold readAuthority at read
  unfold splitPlace at absent
  simp only [absent, List.isEmpty_nil, true_and, and_true, if_true] at read
  have hosted := passed (passed read)
  split at hosted
  · obtain ⟨_, -, numbered⟩ := bind_eq_ok_iff.1 hosted
    obtain ⟨_, -, written⟩ := bind_eq_ok_iff.1 (passed numbered)
    cases passed written
    rfl
  · obtain ⟨_, -, numbered⟩ := bind_eq_ok_iff.1 hosted
    obtain ⟨_, -, written⟩ := bind_eq_ok_iff.1 (passed numbered)
    cases passed written
    rfl

theorem AreaNames.of_read {authority : Authority} {left : List Char}
    {host : Host} {port : Option Nat}
    (read : readAuthority scheme isSpecial endsText area =
      .ok (authority, left)) (named : authority.host = some host)
    (numbered : authority.port = port) :
    AreaNames scheme isSpecial area host port := by
  have present : (splitPlace area).1 ≠ [] := by
    intro absent
    rw [readAuthority_of_absent absent read] at named
    cases named
  rw [readAuthority_of_present present] at read
  obtain ⟨found, isHost, read⟩ := bind_eq_ok_iff.1 read
  obtain ⟨number, isPort, read⟩ := bind_eq_ok_iff.1 read
  cases read
  cases named
  cases numbered
  exact ⟨present, isHost, isPort⟩

/-- An authority that names a host is read, wherever the text ends. -/
theorem AreaNames.read {host : Host} {port : Option Nat}
    (names : AreaNames scheme isSpecial area host port) :
    ∃ authority left,
      (∀ endsText, readAuthority scheme isSpecial endsText area =
        .ok (authority, left)) ∧
      authority.host = some host ∧ authority.port = port := by
  let authority : Authority :=
    ⟨credentialsText ((splitLast? '@' area).getD ([], area)).1, some host, port⟩
  refine ⟨authority, ((splitPlace area).2.drop 1).dropWhile
    (· ≠ '\\'), fun endsText => ?_, rfl, rfl⟩
  rw [readAuthority_of_present names.present, names.isHost, names.isPort]
  rfl

/-! ### The kinds of URLs -/

def FrontNames (front : Front) (host : Host) (port : Option Nat) : Prop :=
  ∃ authority, front.1 = some authority ∧ authority.host = some host ∧
    authority.port = port

def specialArea (text : List Char) : List Char :=
  (text.dropWhile (isStroke true)).takeWhile (¬ isStroke true ·)

theorem readSpecial_names_iff {text : List Char} {host : Host}
    {port : Option Nat} :
    (∃ front, readSpecial scheme endsText text = .ok front ∧
      FrontNames front host port) ↔
      AreaNames scheme true (specialArea text) host port := by
  constructor
  · rintro ⟨front, read, authority, same, named, numbered⟩
    unfold readSpecial at read
    obtain ⟨⟨found, left⟩, isAuthority, read⟩ := bind_eq_ok_iff.1 read
    cases read
    cases same
    exact .of_read isAuthority named numbered
  · intro names
    obtain ⟨authority, left, isAuthority, named⟩ := names.read
    exact ⟨_, bind_eq_ok_iff.2 ⟨(authority, left), isAuthority _, rfl⟩,
      authority, rfl, named⟩

structure FileNames (text : List Char) (host : Host) : Prop where
  present : text.takeWhile (¬ isStroke true ·) ≠ []
  noDrive : isDrive (text.takeWhile (¬ isStroke true ·)) = false
  isHost : Host.ofSpecial (text.takeWhile (¬ isStroke true ·)) = .ok host
  isRemote : host ≠ .name "localhost".toList
  plain : (Path.ofText true true
    ((text.dropWhile (¬ isStroke true ·)).drop 1)).hasDrive = false

structure IsFileHost (area : List Char) (host : Host) : Prop where
  present : area ≠ []
  noDrive : isDrive area = false
  isHost : Host.ofSpecial area = .ok host
  isRemote : host ≠ .name "localhost".toList

theorem fileNames_iff {text : List Char} {host : Host} : FileNames text host ↔
    IsFileHost (text.takeWhile (¬ isStroke true ·)) host ∧
      (Path.ofText true true
        ((text.dropWhile (¬ isStroke true ·)).drop 1)).hasDrive = false := by
  constructor
  · intro names
    exact ⟨⟨names.present, names.noDrive, names.isHost,
      names.isRemote⟩, names.plain⟩
  · rintro ⟨area, plain⟩
    exact ⟨area.present, area.noDrive, area.isHost, area.isRemote, plain⟩

theorem fileNames_stop_iff {front behind : List Char} {stop : Char} {host : Host}
    (before : ∀ char ∈ front, decide (¬ isStroke true char = true) = true)
    (stops : decide (¬ isStroke true stop = true) = false) :
    FileNames (front ++ stop :: behind) host ↔
      IsFileHost front host ∧
        (Path.ofText true true behind).hasDrive = false := by
  rw [fileNames_iff, Text.takeWhile_stop before stops,
    Text.dropWhile_stop before stops, List.drop_one, List.tail_cons]

private theorem not_names_of_hostless {text : List Char} {front : Front}
    {host : Host} {port : Option Nat}
    (read : Except.ok (hostless text) = (Except.ok front : Except Fault Front)) :
    ¬ FrontNames front host port := by
  rintro ⟨authority, same, named, -⟩
  cases read
  cases same
  cases named

private theorem drop_takeWhile {α : Type} (keeps : α → Bool) (items : List α) :
    items.drop (items.takeWhile keeps).length = items.dropWhile keeps := by
  have parts : items.takeWhile keeps ++ items.dropWhile keeps = items :=
    List.takeWhile_append_dropWhile
  calc items.drop (items.takeWhile keeps).length
      = (items.takeWhile keeps ++ items.dropWhile keeps).drop
        (items.takeWhile keeps).length := by rw [parts]
    _ = items.dropWhile keeps := List.drop_left

theorem readFile_names_iff {text : List Char} {host : Host} {port : Option Nat} :
    (∃ front, readFile text = .ok front ∧ FrontNames front host port) ↔
      (∃ first second rest, text = first :: second :: rest ∧
        isStroke true first = true ∧ isStroke true second = true ∧
        FileNames rest host) ∧ port = none := by
  constructor
  · rintro ⟨front, read, names⟩
    unfold readFile at read
    split at read
    case h_1 first second rest =>
        split at read
        case isTrue strokes =>
            simp only at read
            split at read
            · exact absurd names (not_names_of_hostless read)
            case isFalse noDrive =>
            split at read
            · exact absurd names (not_names_of_hostless read)
            case isFalse present =>
            obtain ⟨found, isHost, read⟩ := bind_eq_ok_iff.1 read
            split at read
            · exact absurd names (not_names_of_hostless read)
            case isFalse isRemote =>
            obtain ⟨authority, same, named, numbered⟩ := names
            cases read
            cases same
            rw [drop_takeWhile] at named
            split at named
            · cases named
            case isFalse plain =>
            cases named
            cases numbered
            have kept : rest.takeWhile (¬ isStroke true ·) ≠ [] := by
              rw [Ne, ← List.isEmpty_iff]
              exact present
            exact ⟨⟨first, second, rest, rfl, strokes.1, strokes.2, kept,
              eq_false_of_ne_true noDrive, isHost,
              isRemote, eq_false_of_ne_true plain⟩, rfl⟩
        case isFalse =>
            split at read
            · exact absurd names (not_names_of_hostless read)
            · exact absurd names (not_names_of_hostless read)
    case h_2 =>
        split at read
        · exact absurd names (not_names_of_hostless read)
        · exact absurd names (not_names_of_hostless read)
    case h_3 =>
        exact absurd names (not_names_of_hostless read)
  · rintro ⟨⟨first, second, rest, rfl, isFirst, isSecond, names⟩, rfl⟩
    have present : (rest.takeWhile (¬ isStroke true ·)).isEmpty = false := by
      rw [← Bool.not_eq_true, List.isEmpty_iff]
      exact names.present
    unfold readFile
    simp only [isFirst, isSecond, and_self, if_true, names.noDrive, present,
      Bool.false_eq_true, if_false, names.isHost,
      bind, Except.bind, names.isRemote, drop_takeWhile, names.plain]
    exact ⟨_, rfl, _, rfl, rfl, rfl⟩

theorem readOther_names_iff {text : List Char} {host : Host} {port : Option Nat} :
    (∃ front, readOther scheme endsText text = .ok front ∧
      FrontNames front host port) ↔
      ∃ rest, text = '/' :: '/' :: rest ∧
        AreaNames scheme false (rest.takeWhile (· ≠ '/')) host port := by
  constructor
  · rintro ⟨front, read, authority, same, named, numbered⟩
    unfold readOther at read
    split at read
    case h_1 rest =>
        obtain ⟨⟨found, left⟩, isAuthority, read⟩ := bind_eq_ok_iff.1 read
        refine ⟨rest, rfl, ?_⟩
        have written : front.1 = some found := by
          simp only at read
          split at read
          · cases read
            rfl
          · cases read
            rfl
          · cases read
            rfl
        rw [written, Option.some.injEq] at same
        rw [same] at isAuthority
        exact .of_read isAuthority named numbered
    case h_2 =>
        cases read
        cases same
    case h_3 =>
        cases read
        cases same
  · rintro ⟨rest, rfl, names⟩
    obtain ⟨authority, left, isAuthority, named⟩ := names.read
    have written : ∃ path, readOther scheme endsText ('/' :: '/' :: rest) =
        .ok (some authority, path) := by
      unfold readOther
      simp only [isAuthority, bind, Except.bind]
      split
      · exact ⟨_, rfl⟩
      · exact ⟨_, rfl⟩
      · exact ⟨_, rfl⟩
    obtain ⟨path, read⟩ := written
    exact ⟨(some authority, path), read, authority, rfl, named⟩

/-! ### Whole URLs -/

def beforeQuery (text : List Char) : List Char :=
  (text.takeWhile (· ≠ '#')).takeWhile (· ≠ '?')

/-- What stands between the colon behind the scheme and the query leads to a
host and a port. -/
def Leads (scheme main : List Char) (host : Host) (port : Option Nat) : Prop :=
  if isFileScheme scheme then
    (∃ first second rest, main = first :: second :: rest ∧
      isStroke true first = true ∧ isStroke true second = true ∧
      FileNames rest host) ∧ port = none
  else if (defaultPort? scheme).isSome then
    AreaNames scheme true (specialArea main) host port
  else ∃ rest, main = '/' :: '/' :: rest ∧
    AreaNames scheme false (rest.takeWhile (· ≠ '/')) host port

theorem leads_strokes_iff {text : List Char} {host : Host} {port : Option Nat} :
    Leads scheme ('/' :: '/' :: text) host port ↔
      if isFileScheme scheme then FileNames text host ∧ port = none
      else if (defaultPort? scheme).isSome then
        AreaNames scheme true (specialArea text) host port
      else AreaNames scheme false (text.takeWhile (· ≠ '/')) host port := by
  unfold Leads
  split
  case isTrue =>
      constructor
      · rintro ⟨⟨first, second, rest, same, -, -, names⟩, noPort⟩
        rw [List.cons.injEq, List.cons.injEq] at same
        exact ⟨same.2.2 ▸ names, noPort⟩
      · rintro ⟨names, noPort⟩
        exact ⟨⟨'/', '/', text, rfl, rfl, rfl, names⟩, noPort⟩
  case isFalse =>
      split
      case isTrue => rfl
      case isFalse =>
          constructor
          · rintro ⟨rest, same, names⟩
            rw [List.cons.injEq, List.cons.injEq] at same
            exact same.2.2 ▸ names
          · exact fun names => ⟨text, rfl, names⟩

def readFront (scheme : List Char) (endsText : Bool) (main : List Char) :
    Except Fault Front :=
  if isFileScheme scheme then readFile main
  else if (defaultPort? scheme).isSome then readSpecial scheme endsText main
  else readOther scheme endsText main

theorem readFront_leads_iff {main : List Char} {host : Host} {port : Option Nat} :
    (∃ front, readFront scheme endsText main = .ok front ∧
      FrontNames front host port) ↔
      Leads scheme main host port := by
  unfold readFront Leads
  split
  · exact readFile_names_iff
  · split
    · exact readSpecial_names_iff
    · exact readOther_names_iff

private theorem bind_ok {α β fault : Type} (result : Except fault α)
    (change : α → β) :
    (result >>= fun value => .ok (change value)) = result.map change := by
  cases result with
  | ok value => rfl
  | error fault => rfl

private theorem parse_of_splitScheme? {text : String} {rest : List Char}
    (split : splitScheme? (significant text) = some (scheme, rest)) :
    ∃ endsText query fragment, parse text =
      (readFront scheme endsText (beforeQuery rest)).map fun front =>
      ⟨scheme, front.1, front.2, query, fragment⟩ := by
  refine ⟨(rest.dropWhile (· ≠ '#')).tail?.isNone
    && ((rest.takeWhile (· ≠ '#')).dropWhile (· ≠ '?')).tail?.isNone,
    ((rest.takeWhile (· ≠ '#')).dropWhile (· ≠ '?')).tail?.map
      (encode (if isFileScheme scheme || (defaultPort? scheme).isSome then
        .specialQuery else .query)),
    (rest.dropWhile (· ≠ '#')).tail?.map (encode .fragment), ?_⟩
  unfold parse readFront
  cases file : isFileScheme scheme with
  | true =>
      simp only [split, file, Bool.true_or, if_true]
      exact bind_ok _ _
  | false =>
      cases special : (defaultPort? scheme).isSome with
      | true =>
          simp only [split, file, special, Bool.false_or, Bool.false_eq_true,
            if_true, if_false]
          exact bind_ok _ _
      | false =>
          simp only [split, file, special, Bool.false_or,
            Bool.false_eq_true, if_false]
          exact bind_ok _ _

/-- A URL has the host and the port to which its text leads. -/
theorem parse_leads_iff {text : String} {host : Host} {port : Option Nat} :
    (∃ url, parse text = .ok url ∧ url.scheme = scheme ∧ url.host? = some host ∧
      url.port? = port) ↔
      ∃ rest, splitScheme? (significant text) = some (scheme, rest) ∧
        Leads scheme (beforeQuery rest) host port := by
  constructor
  · rintro ⟨url, read, rfl, named, numbered⟩
    cases split : splitScheme? (significant text) with
    | none =>
        rw [parse, split] at read
        cases read
    | some parts =>
        obtain ⟨scheme, rest⟩ := parts
        obtain ⟨endsText, query, fragment, same⟩ := parse_of_splitScheme? split
        rw [same] at read
        obtain ⟨front, isFront, rfl⟩ := map_eq_ok_iff.1 read
        obtain ⟨authority, present, isHost⟩ := Option.bind_eq_some_iff.1 named
        have isPort : authority.port = port := by
          rw [← numbered, port?, present]
          rfl
        exact ⟨rest, rfl, readFront_leads_iff.1 ⟨front, isFront, authority,
          present, isHost, isPort⟩⟩
  · rintro ⟨rest, split, leads⟩
    obtain ⟨endsText, query, fragment, same⟩ := parse_of_splitScheme? split
    obtain ⟨front, isFront, authority, present, isHost, isPort⟩ :=
      readFront_leads_iff.2 leads
    refine ⟨⟨scheme, front.1, front.2, query, fragment⟩, ?_, rfl, ?_, ?_⟩
    · rw [same]
      exact map_eq_ok_iff.2 ⟨front, isFront, rfl⟩
    · exact Option.bind_eq_some_iff.2 ⟨authority, present, isHost⟩
    · rw [port?, present]
      exact isPort

end BoundKey.Url
