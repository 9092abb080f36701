import BoundKey.Proofs.Json.Plain
import BoundKey.Proofs.Jws

set_option autoImplicit false

/-!
Tokens made with any signing operation and taken apart again. Signing is asked
for once, and what it answers decides: a fault of its own is passed on, and a
signature makes a token that is taken apart into the header, the payload and the
signature that went in. Only the empty signature is lost, because the dot in
front of it is at the end of the token.
-/

namespace BoundKey.Jws

/-! ### The empty signature -/

theorem splitParts?_unsigned {header payload : List Char}
    (headerPlain : ∀ char ∈ header, (char == '.' || Text.isBlank char) = false)
    (payloadPlain : ∀ char ∈ payload, (char == '.' || Text.isBlank char) = false)
    (someHeader : header ≠ []) (somePayload : payload ≠ []) :
    splitParts? (String.ofList (header ++ '.' :: payload ++ ['.'])) = none := by
  have noDot {part : List Char}
      (plain : ∀ char ∈ part, (char == '.' || Text.isBlank char) = false) :
        '.' ∉ part := by
    intro member
    cases plain '.' member
  have kept : Text.trimChars (fun char => char == '.' || Text.isBlank char)
      (header ++ '.' :: payload) = header ++ '.' :: payload := by
    apply Text.trimChars_of_kept
    · intro char first
      cases header with
      | nil => exact absurd rfl someHeader
      | cons other rest =>
          cases first
          exact headerPlain char List.mem_cons_self
    · intro char last
      have inPayload : (header ++ '.' :: payload).getLast? =
          payload.getLast? := by
        cases payload with
        | nil => exact absurd rfl somePayload
        | cons other rest =>
            rw [List.getLast?_append, List.getLast?_cons_cons,
              List.getLast?_cons]; rfl
      rw [inPayload] at last
      exact payloadPlain char (List.mem_of_getLast? last)
  have trimmed : Text.trimChars (fun char => char == '.' || Text.isBlank char)
      (header ++ '.' :: payload ++ ['.']) = header ++ '.' :: payload := by
    obtain ⟨first, rest, same⟩ := List.exists_cons_of_ne_nil someHeader
    have listed : first ∈ header := same ▸ List.mem_cons_self
    rw [Text.trimChars_append_dropped (List.mem_append_left _ listed)
      (headerPlain first listed), kept]
    intro char member
    rw [List.mem_singleton.1 member]
    rfl
  rw [splitParts?, String.toList_ofList, trimmed,
    Text.splitOnce_singleton (noDot headerPlain)]
  change ((Text.splitOnce ['.'] payload).bind _) = _
  rw [Text.splitOnce_of_notMem (noDot payloadPlain)]
  rfl

theorem decompose_token_nil {α : Type} [Json.Codec α]
    (header : Header) (payload : α) :
    decompose α (token header payload []) =
      .error (.couldNotExtract missingPart) := by
  have parts : splitParts? (token header payload []) = none := by
    have unsigned := splitParts?_unsigned (segment_plain (Json.encode header))
      (segment_plain (Json.encode payload))
      (segment_ne_nil header) (segment_ne_nil payload)
    have same : token header payload [] =
        String.ofList ((segment (Json.encode header)).toList ++
        '.' :: (segment (Json.encode payload)).toList ++ ['.']) := by
      have empty : Base64.encode .url [] = "" := rfl
      rw [← String.toList_inj, String.toList_ofList, token_toList,
        List.append_assoc, List.cons_append, empty]
      rfl
    rw [same, unsigned]
  rw [decompose, parts]

/-! ### Signing operations -/

variable {σ : Type}

/-- A signing operation with a state of its own, together with a list of the
messages that it was asked to sign. -/
def recorded (sign : Bytes → StateM σ (Except SignerFault Bytes))
    (message : Bytes) : StateM (σ × List Bytes) (Except SignerFault Bytes) :=
  fun (state, asked) =>
    let (answer, after) := (sign message).run state
    (answer, after, asked ++ [message])

/-- Whatever effects signing has, making a token has those of signing its input
once, and its answer alone decides. -/
theorem tokenize_eq_map {m : Type → Type} [Monad m] [LawfulMonad m] {α : Type}
    [Json.Codec α] (header : Header)
    (payload : α) (sign : Bytes → m (Except SignerFault Bytes)) :
    tokenize header payload sign =
      (fun answer => (answer.map (token header payload)).mapError
        Fault.couldNotSign) <$>
      sign (Utf8.encode (signingInput header payload)) := by
  rw [tokenize, ← bind_pure_comp]
  congr 1
  funext answer
  cases answer with
  | ok signature => rfl
  | error cause => rfl

/-- Making a token asks for one signature, of the header and the payload as they
are joined. If signing fails, so does making the token, with that fault.
Otherwise there is a token, and taking it apart gives back the header, the
payload, what was signed and the signature; but with an empty signature it is a
token with a missing part. -/
theorem tokenize_decompose (header : Header) {payload : Json.Value}
    (plain : payload.IsPlain Json.maxDepth)
    (sign : Bytes → StateM σ (Except SignerFault Bytes)) (state : σ)
    (asked : List Bytes) : let signed := Utf8.encode (signingInput header payload)
    (∀ cause after, (sign signed).run state = (.error cause, after) →
      (tokenize header payload (recorded sign)).run (state, asked) =
        (.error (.couldNotSign cause), after, asked ++ [signed])) ∧
    (∀ signature after, (sign signed).run state = (.ok signature, after) →
      ∃ token, (tokenize header payload (recorded sign)).run (state, asked) =
        (.ok token, after, asked ++ [signed]) ∧
        (signature ≠ [] →
          decompose Json.Value token =
            .ok ⟨header, payload, signingInput header payload, signature⟩) ∧
        (signature = [] → decompose Json.Value token =
          .error (.couldNotExtract "Missing token part"))) := by
  intro signed
  have once (answer : Except SignerFault Bytes) (after : σ)
      (answered : (sign signed).run state = (answer, after)) :
      (tokenize header payload (recorded sign)).run (state, asked) =
        ((answer.map (token header payload)).mapError Fault.couldNotSign, after,
          asked ++ [signed]) := by
    have noted : (recorded sign signed).run (state, asked) =
        (answer, after, asked ++ [signed]) := by
      change (((sign signed).run state).1, ((sign signed).run state).2,
        asked ++ [signed]) = _
      rw [answered]
    rw [tokenize_eq_map, StateT.run_map, noted]
    rfl
  constructor
  · intro cause after answered
    exact once _ after answered
  · intro signature after answered
    refine ⟨token header payload signature, once _ after answered, ?_, ?_⟩
    · intro present
      exact decompose_token header plain.toValue?_tree present
    · intro empty
      rw [empty]
      exact decompose_token_nil header payload

def fullHeader : Header :=
  ⟨"RS256\u0000", some "\"JWT\"", some "a.b\\ ", some ["", "AA=="]⟩

/-- The case of the deepest payload and a signing operation that counts its
calls. -/
theorem tokenize_decompose_nested :
    (Json.Value.nested 126).IsPlain Json.maxDepth ∧
    ∃ token, (tokenize fullHeader (Json.Value.nested 126)
        (recorded fun _ count => (.ok [0, 255], count + 1))).run ((0 : Nat), []) =
          (.ok token, 1, [Utf8.encode
            (signingInput fullHeader (Json.Value.nested 126))]) ∧
      decompose Json.Value token = .ok ⟨fullHeader, Json.Value.nested 126,
        signingInput fullHeader (Json.Value.nested 126), [0, 255]⟩ := by
  have plain := Json.Value.nested_isPlain 126
  obtain ⟨token, made, parts, _⟩ := (tokenize_decompose fullHeader plain
    (fun _ count => (.ok [0, 255], count + 1)) (0 : Nat) []).2 [0, 255] 1 rfl
  exact ⟨plain, token, made, parts (List.cons_ne_nil _ _)⟩

end BoundKey.Jws
