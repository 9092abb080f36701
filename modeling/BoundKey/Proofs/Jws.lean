import BoundKey.Jws
import BoundKey.Proofs.Json.Members
import BoundKey.Proofs.Text.Base64
import BoundKey.Proofs.Text.Blank

set_option autoImplicit false

/-!
Tokens taken apart again. Base 64 for URLs has no dots and no white space, so
the two dots of a token are the ones that were put there; each part is decoded
to the bytes that were encoded, and these are read as what was printed.
-/

namespace BoundKey.Jws

/-! ### Headers -/

private def members (header : Header) : List (String × Option Json.Value) :=
  [("alg", some (.string header.algorithm)), ("typ", header.kind.map .string),
    ("kid", header.keyId.map .string),
    ("x5c", header.certificates.map fun texts => .array (texts.map .string))]

private theorem members_distinct (header : Header) :
    ((members header).map Prod.fst).Nodup := by
  change ["alg", "typ", "kid", "x5c"].Nodup
  decide

private theorem mapM_text_itemTrees (depth : Nat) (texts : List String) :
    (Json.itemTrees (texts.map .string)).mapM (Json.Reader.text depth) =
      some texts := by
  induction texts with
  | nil => rfl
  | cons text rest ih =>
      rw [List.map_cons, Json.itemTrees, List.mapM_cons,
        Json.Reader.text_tree, ih]
      rfl

theorem Header.read?_toValue (header : Header) (depth : Nat) :
    Json.Codec.read? (depth + 2) (Json.Codec.toValue header).tree =
      some header := by
  have distinct := members_distinct header
  have record : (Json.Codec.toValue header).tree.record? ["alg", "typ", "kid",
      "x5c"] (depth + 2) =
      some (Json.printedRecord (depth + 1) (members header)) :=
    Json.record?_ofPresent distinct (fun _ listed => listed) (depth + 1)
  have algorithm : (Json.printedRecord (depth + 1) (members header)).required
      "alg" Json.Reader.text = some header.algorithm :=
    Json.required_text distinct (depth + 1) rfl
  have kind : (Json.printedRecord (depth + 1) (members header)).optional "typ"
      Json.Reader.text = some header.kind :=
    Json.optional_text distinct (depth + 1) rfl
  have keyId : (Json.printedRecord (depth + 1) (members header)).optional "kid"
      Json.Reader.text = some header.keyId :=
    Json.optional_text distinct (depth + 1) rfl
  have certificates :
      (Json.printedRecord (depth + 1) (members header)).optional "x5c"
      (Json.Reader.list Json.Reader.text) = some header.certificates := by
    have printed : (members header).lookup "x5c" =
        some (header.certificates.map fun texts =>
          .array (texts.map .string)) := rfl
    apply Json.optional_printed distinct (depth + 1) printed
    · intro present found
      obtain ⟨texts, same, printed⟩ := Option.map_eq_some_iff.1 found
      rw [same, ← printed, Json.Value.tree, Json.Reader.list,
        if_neg (Nat.succ_ne_zero depth), Nat.add_sub_cancel,
        mapM_text_itemTrees]
      exact ⟨Json.Value.noConfusion, rfl⟩
    · intro absent
      exact Option.map_eq_none_iff.1 absent
  change ((Json.Codec.toValue header).tree.record? ["alg", "typ", "kid", "x5c"]
    (depth + 2)).bind _ = _
  rw [record, Option.bind_some, algorithm, kind, keyId, certificates]
  rfl

/-! ### Parts -/

theorem decodePart_segment (text : String) :
    decodePart (segment text).toList = .ok (Utf8.encode text) := by
  rw [decodePart, String.ofList_toList, segment, Base64.decode_encode]

theorem readPart_segment {α : Type} [Json.Codec α] {thing : α}
    (read : Json.Codec.read? Json.maxDepth (Json.Codec.toValue thing).tree =
      some thing) :
    readPart α (segment (Json.encode thing)).toList = .ok thing := by
  simp only [readPart, decodePart_segment, bind, Except.bind,
    Json.decode?_encode read]

theorem segment_plain (text : String) :
    ∀ char ∈ (segment text).toList, (char == '.' || Text.isBlank char) = false :=
  Base64.encode_url_plain (Utf8.encode text)

theorem dot_notMem_encode (bytes : Bytes) :
    '.' ∉ (Base64.encode .url bytes).toList := by
  intro member
  cases Base64.encode_url_plain bytes '.' member

theorem dot_notMem_segment (text : String) : '.' ∉ (segment text).toList :=
  dot_notMem_encode (Utf8.encode text)

theorem segment_inj {text other : String} :
    segment text = segment other ↔ text = other :=
  Base64.encode_inj.trans Utf8.encode_inj

theorem segment_ne_nil {α : Type} [Json.Codec α] (thing : α) :
    (segment (Json.encode thing)).toList ≠ [] := by
  apply Base64.encode_url_ne_nil
  rw [Json.encode, Json.Value.encode_render]
  exact Json.Value.bytes_ne_nil _

/-! ### Tokens -/

theorem splitParts?_joined {header payload signature : List Char}
    (headerPlain : ∀ char ∈ header, (char == '.' || Text.isBlank char) = false)
    (payloadPlain : ∀ char ∈ payload, (char == '.' || Text.isBlank char) = false)
    (signaturePlain : ∀ char ∈ signature,
      (char == '.' || Text.isBlank char) = false)
    (someHeader : header ≠ []) (someSignature : signature ≠ []) :
    splitParts? (String.ofList (header ++ '.' :: payload ++ '.' :: signature)) =
      some (header, payload, signature) := by
  have noDot {part : List Char}
      (plain : ∀ char ∈ part, (char == '.' || Text.isBlank char) = false) :
        '.' ∉ part := by
    intro member
    cases plain '.' member
  have kept : Text.trimChars (fun char => char == '.' || Text.isBlank char)
      (header ++ '.' :: payload ++ '.' :: signature) =
      header ++ '.' :: payload ++ '.' :: signature := by
    apply Text.trimChars_of_kept
    · intro char first
      cases header with
      | nil => exact absurd rfl someHeader
      | cons other rest =>
          cases first
          exact headerPlain char List.mem_cons_self
    · intro char last
      have inSignature :
          (header ++ '.' :: payload ++ '.' :: signature).getLast? =
            signature.getLast? := by
        cases signature with
        | nil => exact absurd rfl someSignature
        | cons other rest =>
            rw [List.getLast?_append, List.getLast?_cons_cons,
              List.getLast?_cons]; rfl
      rw [inSignature] at last
      exact signaturePlain char (List.mem_of_getLast? last)
  rw [splitParts?, String.toList_ofList, kept, List.append_assoc,
    List.cons_append, Text.splitOnce_singleton (noDot headerPlain)]
  change ((Text.splitOnce ['.'] (payload ++ '.' :: signature)).bind _) = _
  rw [Text.splitOnce_singleton (noDot payloadPlain)]
  rfl

def token {α : Type} [Json.Codec α] (header : Header) (payload : α)
    (signature : Bytes) : String :=
  signingInput header payload ++ "." ++ Base64.encode .url signature

theorem token_toList {α : Type} [Json.Codec α] (header : Header) (payload : α)
    (signature : Bytes) : (token header payload signature).toList =
      (segment (Json.encode header)).toList ++
      '.' :: ((segment (Json.encode payload)).toList
        ++ '.' :: (Base64.encode .url signature).toList) := by
  rw [token, signingInput]
  simp

theorem decompose_token {α : Type} [Json.Codec α] (header : Header) {payload : α}
    (read : Json.Codec.read? Json.maxDepth (Json.Codec.toValue payload).tree =
      some payload) {signature : Bytes}
    (signed : signature ≠ []) :
    decompose α (token header payload signature) =
      .ok ⟨header, payload, signingInput header payload, signature⟩ := by
  have parts : splitParts? (token header payload signature) =
      some ((segment (Json.encode header)).toList,
      (segment (Json.encode payload)).toList,
      (Base64.encode .url signature).toList) := by
    have joined := splitParts?_joined (segment_plain (Json.encode header))
      (segment_plain (Json.encode payload))
      (Base64.encode_url_plain signature) (segment_ne_nil header)
      (Base64.encode_url_ne_nil signed)
    have same : token header payload signature =
        String.ofList ((segment (Json.encode header)).toList ++
        '.' :: (segment (Json.encode payload)).toList
        ++ '.' :: (Base64.encode .url signature).toList) := by
      rw [← String.toList_inj, String.toList_ofList, token_toList,
        List.append_assoc, List.cons_append]
    rw [same, joined]
  have readSignature : decodePart (Base64.encode .url signature).toList =
      .ok signature := by
    rw [decodePart, String.ofList_toList, Base64.decode_encode]
  have input :
      String.ofList ((segment (Json.encode header)).toList
        ++ '.' :: (segment (Json.encode payload)).toList) =
      signingInput header payload := by
    rw [← String.toList_inj, signingInput]
    simp
  rw [decompose, parts]
  dsimp only
  rw [readPart_segment (header.read?_toValue 125), readPart_segment read,
    readSignature, input]
  rfl

/-- What a token was made of can be read off it, the signature included even if
it is empty. -/
theorem token_inj {α : Type} [Json.Codec α] {header other : Header}
    {payload otherPayload : α}
    (read : Json.Codec.read? Json.maxDepth (Json.Codec.toValue payload).tree =
      some payload)
    (otherRead : Json.Codec.read? Json.maxDepth
      (Json.Codec.toValue otherPayload).tree = some otherPayload)
    {signature otherSignature : Bytes} :
    token header payload signature = token other otherPayload otherSignature ↔
      header = other ∧ payload = otherPayload ∧ signature = otherSignature := by
  constructor
  · intro same
    -- Neither of the first two parts has a dot, so both tokens are cut at the
    -- same places.
    have cut := congrArg (Text.splitOnce ['.']) (String.toList_inj.2 same)
    rw [token_toList, token_toList,
      Text.splitOnce_singleton (dot_notMem_segment _),
      Text.splitOnce_singleton (dot_notMem_segment _), Option.some_inj,
      Prod.mk.injEq] at cut
    have rest := congrArg (Text.splitOnce ['.']) cut.2
    rw [Text.splitOnce_singleton (dot_notMem_segment _),
      Text.splitOnce_singleton (dot_notMem_segment _),
      Option.some_inj, Prod.mk.injEq] at rest
    have headers := segment_inj.1 (String.toList_inj.1 cut.1)
    have payloads := segment_inj.1 (String.toList_inj.1 rest.1)
    have signatures := Base64.encode_inj.1 (String.toList_inj.1 rest.2)
    exact ⟨(Json.encode_inj (header.read?_toValue 125)
      (other.read?_toValue 125)).1 headers,
      (Json.encode_inj read otherRead).1 payloads, signatures⟩
  · rintro ⟨rfl, rfl, rfl⟩
    rfl

theorem tokenize_run {α : Type} [Json.Codec α] (header : Header) (payload : α)
    (sign : Bytes → Except SignerFault Bytes) :
    Id.run (tokenize header payload fun message => pure (sign message)) =
      ((sign (Utf8.encode (signingInput header payload))).map
        (token header payload)).mapError Fault.couldNotSign := by
  rw [tokenize]
  simp only [bind, pure, Id.run]
  cases sign (Utf8.encode (signingInput header payload)) with
  | ok signature => rfl
  | error cause => rfl

end BoundKey.Jws
