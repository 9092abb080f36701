import BoundKey.Proofs.Jws.RoundTrip
import BoundKey.Proofs.Program
import Mathlib.Data.List.Basic

set_option autoImplicit false

/-!
The form of accepted tokens. A token is accepted exactly if it is three base 64
texts joined by dots, of which the first two decode to JSON texts of the wanted
kinds; dots and white space around it do not count. Since base 64 is read
strictly, what was signed and the signature leave no choice in how the token is
spelled.
-/

namespace BoundKey.Jws

/-! ### The core of a token -/

def isAround (char : Char) : Bool :=
  char == '.' || Text.isBlank char

/-- A token without the dots and the white space around it. -/
def core (token : String) : String :=
  String.ofList (Text.trimChars isAround token.toList)

/-- A token consists of an inner text and of dots and white space around it. -/
def Encloses (token inner : String) : Prop :=
  ∃ before after : List Char, token.toList = before ++ inner.toList ++ after ∧
    (∀ char ∈ before, isAround char = true) ∧ ∀ char ∈ after, isAround char = true

theorem core_toList (token : String) :
    (core token).toList = Text.trimChars isAround token.toList :=
  String.toList_ofList

theorem encloses_core (token : String) : Encloses token (core token) := by
  obtain ⟨before, after, whole, droppedBefore, droppedAfter⟩ :=
    Text.trimChars_append isAround token.toList
  refine ⟨before, after, ?_, droppedBefore, droppedAfter⟩
  rw [core_toList]
  exact whole

theorem encloses_append {before after : String} (inner : String)
    (droppedBefore : ∀ char ∈ before.toList, isAround char = true)
    (droppedAfter : ∀ char ∈ after.toList, isAround char = true) :
    Encloses (before ++ inner ++ after) inner := by
  refine ⟨before.toList, after.toList, ?_, droppedBefore, droppedAfter⟩
  rw [String.toList_append, String.toList_append]

theorem core_of_encloses {token inner : String}
    (encloses : Encloses token inner) (kept : core inner = inner) :
    core token = inner := by
  obtain ⟨before, after, whole, droppedBefore, droppedAfter⟩ := encloses
  have same : Text.trimChars isAround token.toList =
      Text.trimChars isAround inner.toList := by
    rw [whole]
    exact Text.trimChars_around droppedBefore droppedAfter
  rw [core, same]
  exact kept

theorem core_of_plain_ends {front back : Bytes} {text middle : String}
    (someFront : front ≠ []) (someBack : back ≠ [])
    (joined :
      text = Base64.encode .url front ++ middle ++ Base64.encode .url back) :
    core text = text := by
  have whole : text.toList =
      (Base64.encode .url front).toList ++ middle.toList
        ++ (Base64.encode .url back).toList := by
    rw [joined, String.toList_append, String.toList_append]
  have kept : Text.trimChars isAround text.toList = text.toList := by
    apply Text.trimChars_of_kept
    · intro char first
      rw [whole, List.append_assoc, List.head?_append_of_ne_nil
        _ (Base64.encode_url_ne_nil someFront)] at first
      exact Base64.encode_url_plain front char (List.mem_of_head? first)
    · intro char last
      rw [whole, List.getLast?_append_of_ne_nil
        _ (Base64.encode_url_ne_nil someBack)] at last
      exact Base64.encode_url_plain back char (List.mem_of_getLast? last)
  rw [core, kept, String.ofList_toList]

theorem count_dot_encode (bytes : Bytes) :
    (Base64.encode .url bytes).toList.count '.' = 0 :=
  List.count_eq_zero.2 (dot_notMem_encode bytes)

theorem count_dot_joined (front back : String) :
    (front ++ "." ++ back).toList.count '.' =
      front.toList.count '.' + back.toList.count '.' + 1 := by
  have one : ".".toList.count '.' = 1 := rfl
  rw [String.toList_append, String.toList_append, List.count_append,
    List.count_append, one]
  omega

/-! ### Three parts -/

/-- The parts of a token are those between the first two dots of its core, and
what follows these. -/
theorem splitParts?_eq_some_iff {token : String}
    {header payload signature : List Char} :
    splitParts? token = some (header, payload, signature) ↔
      (core token).toList = header ++ '.' :: payload ++ '.' :: signature ∧
        '.' ∉ header ∧ '.' ∉ payload := by
  rw [core_toList]
  change ((Text.splitOnce ['.'] (Text.trimChars isAround token.toList)).bind
    fun outer =>
    (Text.splitOnce ['.'] outer.2).bind fun inner =>
      some (outer.1, inner.1, inner.2)) = _ ↔ _
  constructor
  · intro found
    obtain ⟨⟨front, rest⟩, outer, later⟩ := Option.bind_eq_some_iff.1 found
    obtain ⟨⟨middle, back⟩, inner, same⟩ := Option.bind_eq_some_iff.1 later
    dsimp only at inner same
    cases same
    obtain ⟨whole, noDotHeader⟩ := Text.splitOnce_singleton_eq_some_iff.1 outer
    obtain ⟨behind, noDotPayload⟩ := Text.splitOnce_singleton_eq_some_iff.1 inner
    refine ⟨?_, noDotHeader, noDotPayload⟩
    rw [whole, behind, List.append_assoc, List.cons_append]
  · rintro ⟨whole, noDotHeader, noDotPayload⟩
    rw [whole, List.append_assoc, List.cons_append,
      Text.splitOnce_singleton noDotHeader, Option.bind_some]
    dsimp only
    rw [Text.splitOnce_singleton noDotPayload, Option.bind_some]

theorem splitParts?_eq_none_of_count
    {token : String} (few : (core token).toList.count '.' < 2) :
    splitParts? token = none := by
  cases found : splitParts? token with
  | none => rfl
  | some parts =>
      obtain ⟨whole, _, _⟩ := splitParts?_eq_some_iff.1 found
      rw [whole] at few
      simp only [List.count_append, List.count_cons_self] at few
      omega

/-! ### Parts that are read -/

theorem decodePart_eq_ok_iff {part : List Char} {bytes : Bytes} :
    decodePart part = .ok bytes ↔ part = (Base64.encode .url bytes).toList := by
  have spelled : Base64.decode .url (String.ofList part) = some bytes ↔
      part = (Base64.encode .url bytes).toList := by
    rw [Base64.decode_eq_some_iff, ← String.toList_inj, String.toList_ofList]
  rw [← spelled, decodePart]
  cases Base64.decode .url (String.ofList part) with
  | none => simp only [reduceCtorEq]
  | some found => rw [Except.ok.injEq, Option.some.injEq]

theorem readPart_eq_ok_iff {α : Type} [Json.Codec α]
    {part : List Char} {thing : α} : readPart α part = .ok thing ↔
      ∃ bytes, part = (Base64.encode .url bytes).toList ∧
        Json.decode? bytes = some thing := by
  rw [readPart, bind_eq_ok_iff]
  constructor
  · rintro ⟨bytes, decoded, read⟩
    refine ⟨bytes, decodePart_eq_ok_iff.1 decoded, ?_⟩
    split at read
    · next found same =>
        cases read
        exact same
    · cases read
  · rintro ⟨bytes, spelled, read⟩
    refine ⟨bytes, decodePart_eq_ok_iff.2 spelled, ?_⟩
    rw [read]

/-- A token is accepted exactly if its core is written by a header, a payload
and a signature. -/
theorem decompose_eq_ok_iff {α : Type} [Json.Codec α] {token : String}
    {parts : Parts α} : decompose α token = .ok parts ↔ ∃ header payload : Bytes,
      core token = parts.signingInput ++ "." ++ Base64.encode .url
        parts.signature ∧
      parts.signingInput = Base64.encode .url header ++ "."
        ++ Base64.encode .url payload ∧
      Json.decode? header = some parts.header ∧
      Json.decode? payload = some parts.payload := by
  constructor
  · intro accepted
    rw [decompose] at accepted
    split at accepted
    · cases accepted
    · next header payload signature split =>
        obtain ⟨whole, _, _⟩ := splitParts?_eq_some_iff.1 split
        obtain ⟨readHeader, atHeader, later⟩ := bind_eq_ok_iff.1 accepted
        obtain ⟨readPayload, atPayload, later⟩ := bind_eq_ok_iff.1 later
        obtain ⟨bytes, atSignature, same⟩ := bind_eq_ok_iff.1 later
        cases same
        obtain ⟨headerBytes, headerSpelled, headerRead⟩ :=
          readPart_eq_ok_iff.1 atHeader
        obtain ⟨payloadBytes, payloadSpelled, payloadRead⟩ :=
          readPart_eq_ok_iff.1 atPayload
        have signatureSpelled := decodePart_eq_ok_iff.1 atSignature
        subst headerSpelled payloadSpelled signatureSpelled
        refine ⟨headerBytes, payloadBytes, ?_, ?_, headerRead, payloadRead⟩
        · rw [← String.toList_inj, whole]
          simp
        · rw [← String.toList_inj]
          simp
  · rintro ⟨header, payload, whole, input, headerRead, payloadRead⟩
    have split : splitParts? token =
        some ((Base64.encode .url header).toList,
          (Base64.encode .url payload).toList,
        (Base64.encode .url parts.signature).toList) := by
      refine splitParts?_eq_some_iff.2 ⟨?_, dot_notMem_encode header,
        dot_notMem_encode payload⟩
      rw [whole, input]
      simp
    have atHeader : readPart Header (Base64.encode .url header).toList =
        .ok parts.header :=
      readPart_eq_ok_iff.2 ⟨header, rfl, headerRead⟩
    have atPayload : readPart α (Base64.encode .url payload).toList =
        .ok parts.payload :=
      readPart_eq_ok_iff.2 ⟨payload, rfl, payloadRead⟩
    have atSignature : decodePart (Base64.encode .url parts.signature).toList =
        .ok parts.signature :=
      decodePart_eq_ok_iff.2 rfl
    have joined :
        String.ofList ((Base64.encode .url header).toList
          ++ '.' :: (Base64.encode .url payload).toList) =
        parts.signingInput := by
      rw [input, ← String.toList_inj]
      simp
    rw [decompose, split]
    dsimp only
    rw [atHeader, atPayload, atSignature, joined]
    rfl

/-! ### What is accepted and what is refused -/

structure IsSegment {α : Type} [Json.Codec α] (text : String) (thing : α) :
    Prop where
  nonEmpty : text ≠ ""
  dotless : '.' ∉ text.toList
  decoded : ∃ bytes, Base64.decode .url text = some bytes ∧
    Json.decode? bytes = some thing

theorem ne_nil_of_decode? {α : Type} [Json.Codec α] {bytes : Bytes} {thing : α}
    (read : Json.decode? bytes = some thing) : bytes ≠ [] := by
  rintro rfl
  have nothing : Json.Tree.parse? [] = none := by
    rw [Json.Tree.parse?, Json.Token.tokens]
    rfl
  rw [Json.decode?, nothing] at read
  cases read

theorem isSegment_encode {α : Type} [Json.Codec α] {bytes : Bytes} {thing : α}
    (read : Json.decode? bytes = some thing) :
    IsSegment (Base64.encode .url bytes) thing where
  nonEmpty empty := Base64.encode_url_ne_nil (ne_nil_of_decode? read)
    (String.toList_eq_nil_iff.2 empty)
  dotless := dot_notMem_encode bytes
  decoded := ⟨bytes, Base64.decode_encode .url bytes, read⟩

/-- The core of an accepted token does not end in a dot, so there is a signature
behind its second dot. -/
theorem signature_ne_nil {token input : String} {signature : Bytes}
    (whole : core token = input ++ "." ++ Base64.encode .url signature) :
    signature ≠ [] := by
  rintro rfl
  have last : (Text.trimChars isAround token.toList).getLast? = some '.' := by
    have empty : Base64.encode .url [] = "" := rfl
    rw [← core_toList, whole, empty, String.append_empty, String.toList_append]
    exact List.getLast?_concat
  cases Text.trimChars_last last

theorem decompose_of_fourth {α : Type} [Json.Codec α] {token : String}
    (dots : 3 ≤ (core token).toList.count '.') :
    ∃ fault, decompose α token = .error fault := by
  cases result : decompose α token with
  | error fault => exact ⟨fault, rfl⟩
  | ok parts =>
      obtain ⟨header, payload, whole, input, _, _⟩ := decompose_eq_ok_iff.1 result
      rw [whole, input, count_dot_joined, count_dot_joined, count_dot_encode,
        count_dot_encode, count_dot_encode] at dots
      omega

theorem decompose_of_stripped {α β : Type} [Json.Codec α] [Json.Codec β]
    {token stripped : String} {parts : Parts α}
    (accepted : decompose α token = .ok parts)
    (encloses : Encloses stripped parts.signingInput) :
    decompose β stripped = .error (.couldNotExtract missingPart) := by
  obtain ⟨header, payload, _, input, headerRead, payloadRead⟩ :=
    decompose_eq_ok_iff.1 accepted
  have kept := core_of_plain_ends (ne_nil_of_decode? headerRead)
    (ne_nil_of_decode? payloadRead) input
  have few : (core stripped).toList.count '.' < 2 := by
    rw [core_of_encloses encloses kept, input, count_dot_joined,
      count_dot_encode, count_dot_encode]
    decide
  rw [decompose, splitParts?_eq_none_of_count few]

/-- An accepted token is, without the dots and the white space around it, what
was signed, a dot and the base 64 text of the signature, which is not empty;
what was signed is the base 64 texts of JSON texts of the header and the
payload, joined by a dot. So tokens that agree in what was signed and in the
signature differ only in what stands around them; a token with a fourth part is
refused, and so is an accepted one without its signature. -/
theorem accepted_is_canonical {α β : Type} [Json.Codec α] [Json.Codec β] :
    (∀ (token : String) (parts : Parts α), decompose α token = .ok parts →
      core token = parts.signingInput ++ "." ++ Base64.encode .url
        parts.signature ∧
      (∃ header payload, parts.signingInput = header ++ "." ++ payload ∧
        IsSegment header parts.header ∧
        IsSegment payload parts.payload) ∧
      parts.signature ≠ []) ∧
    (∀ (token other : String) (parts : Parts α) (otherParts : Parts β),
      decompose α token = .ok parts →
      decompose β other = .ok otherParts →
      parts.signingInput = otherParts.signingInput →
      parts.signature = otherParts.signature →
      ∃ shared, Encloses token shared ∧ Encloses other shared) ∧
    (∀ token : String, 3 ≤ (core token).toList.count '.' →
      ∃ fault, decompose α token = .error fault) ∧
    (∀ (token stripped : String) (parts : Parts α),
      decompose α token = .ok parts →
      Encloses stripped parts.signingInput →
      decompose β stripped = .error (.couldNotExtract missingPart)) := by
  refine ⟨?_, ?_, ?_, ?_⟩
  · intro token parts accepted
    obtain ⟨header, payload, whole, input, headerRead, payloadRead⟩ :=
      decompose_eq_ok_iff.1 accepted
    exact ⟨whole, ⟨_, _, input, isSegment_encode headerRead,
      isSegment_encode payloadRead⟩, signature_ne_nil whole⟩
  · intro token other parts otherParts accepted otherAccepted
      sameInput sameSignature
    obtain ⟨_, _, whole, _⟩ := decompose_eq_ok_iff.1 accepted
    obtain ⟨_, _, otherWhole, _⟩ := decompose_eq_ok_iff.1 otherAccepted
    have sameCore : core token = core other := by
      rw [whole, otherWhole, sameInput, sameSignature]
    exact ⟨core token, encloses_core token, sameCore ▸ encloses_core other⟩
  · exact fun token dots => decompose_of_fourth dots
  · exact fun token stripped parts accepted encloses =>
      decompose_of_stripped accepted encloses

theorem decompose_of_encloses {α : Type} [Json.Codec α] {token inner : String}
    (encloses : Encloses token inner)
    (kept : core inner = inner) : decompose α token = decompose α inner := by
  have same : core token = core inner :=
    (core_of_encloses encloses kept).trans kept.symm
  have trimmed : Text.trimChars isAround token.toList =
      Text.trimChars isAround inner.toList := by
    rw [← core_toList, ← core_toList, same]
  have parts : splitParts? token = splitParts? inner := by
    change (Text.splitOnce ['.'] (Text.trimChars isAround token.toList)).bind _ =
      (Text.splitOnce ['.'] (Text.trimChars isAround inner.toList)).bind _
    rw [trimmed]
  rw [decompose, parts, decompose]

def dottedToken : String :=
  token fullHeader (Json.Value.string ".\n") [0, 255]

/-- The case of a token with a header that has everything in it, among dots and
white space. -/
theorem accepted_is_canonical_dotted : ∃ parts : Parts Json.Value,
    decompose Json.Value ("..\t" ++ dottedToken ++ "\n .") = .ok parts ∧
    decompose Json.Value dottedToken = .ok parts ∧
    core ("..\t" ++ dottedToken ++ "\n .") =
      parts.signingInput ++ "." ++ Base64.encode .url parts.signature ∧
    parts.signature ≠ [] ∧
    (∃ shared, Encloses ("..\t" ++ dottedToken ++ "\n .") shared ∧
      Encloses dottedToken shared) ∧
    (3 ≤ (core "e30.e30.AA.AA").toList.count '.' ∧
      ∃ fault, decompose Json.Value "e30.e30.AA.AA" = .error fault) ∧
    decompose Json.Value (" " ++ parts.signingInput ++ ".") =
      .error (.couldNotExtract missingPart) := by
  obtain ⟨canonical, shares, fourth, stripped⟩ :=
    accepted_is_canonical (α := Json.Value) (β := Json.Value)
  have plain : (Json.Value.string ".\n").IsPlain Json.maxDepth := .string ".\n"
  have accepted : decompose Json.Value dottedToken =
      .ok ⟨fullHeader, .string ".\n",
      signingInput fullHeader (Json.Value.string ".\n"), [0, 255]⟩ :=
    decompose_token fullHeader plain.toValue?_tree (List.cons_ne_nil 0 [255])
  have kept : core dottedToken = dottedToken :=
    (canonical dottedToken _ accepted).1
  have encloses : Encloses ("..\t" ++ dottedToken ++ "\n .") dottedToken :=
    encloses_append dottedToken (List.all_eq_true.1 rfl) (List.all_eq_true.1 rfl)
  have acceptedAmong := (decompose_of_encloses encloses kept).trans accepted
  obtain ⟨whole, _, signed⟩ := canonical _ _ acceptedAmong
  have unsigned :
      Encloses (" " ++ signingInput fullHeader (Json.Value.string ".\n") ++ ".")
      (signingInput fullHeader (Json.Value.string ".\n")) :=
    encloses_append _ (List.all_eq_true.1 rfl) (List.all_eq_true.1 rfl)
  have dots : 3 ≤ (core "e30.e30.AA.AA").toList.count '.' := by decide
  exact ⟨_, acceptedAmong, accepted, whole, signed,
    shares _ _ _ _ acceptedAmong accepted rfl rfl,
    ⟨dots, fourth _ dots⟩, stripped _ _ _ accepted unsigned⟩

end BoundKey.Jws
