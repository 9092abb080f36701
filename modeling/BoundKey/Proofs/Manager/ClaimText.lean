import BoundKey.Proofs.Json.ObjectText
import BoundKey.Proofs.Manager.AccessToken

set_option autoImplicit false

/-!
The text of a request's claims, as it stands in a token. It is an object without
white space whose members come in one order; three of them are always there, the
others if their argument is given and not empty. Arguments stand between quotes
with whatever they contain, so none of them can add a member. An access token
puts one member in front and changes nothing else.
-/

namespace BoundKey

/-! ### Payloads -/

def Jws.payload? (token : String) : Option Bytes := do
  let (_, rest) ← Text.splitOnce ['.'] token.toList
  let (payload, _) ← Text.splitOnce ['.'] rest
  Base64.decode .url (String.ofList payload)

theorem Jws.payload?_token {α : Type} [Json.Codec α] (header : Header)
    (payload : α) (signature : Bytes) :
    payload? (token header payload signature) =
      some (Utf8.encode (Json.encode payload)) := by
  rw [payload?, token_toList, Text.splitOnce_singleton (dot_notMem_segment _),
    Option.bind_eq_bind, Option.bind_some]
  dsimp only
  rw [Text.splitOnce_singleton (dot_notMem_segment _), Option.bind_some]
  dsimp only
  rw [String.ofList_toList, segment, Base64.decode_encode]

/-! ### Claims -/

/-- A member shows an argument: it stands there exactly if the argument is given
and not empty, and then as a text between quotes. -/
def Shows (member argument : Option String) : Prop :=
  ∀ text, member = some text ↔ ∃ value, argument = some value ∧ value ≠ "" ∧
    text = Json.quoted value

theorem shows_nonEmpty (argument : Option String) :
    Shows ((nonEmpty argument).map Json.quoted) argument := by
  intro text
  rw [Option.map_eq_some_iff]
  constructor
  · intro shown
    rcases shown with ⟨value, kept, same⟩
    rcases (says_nonEmpty argument value).1 kept with ⟨given, present⟩
    exact ⟨value, given, present, same.symm⟩
  · intro given
    rcases given with ⟨value, given, present, same⟩
    exact ⟨value, (says_nonEmpty argument value).2 ⟨given, present⟩, same.symm⟩

def confirmationText (key : Rsa.PublicKey) (thumbprint : String) : String :=
  Json.objectText [("jwk", Json.objectText [("kty", Json.quoted "RSA"),
    ("n", Json.quoted (Jwk.encodeNat key.modulus)),
    ("e", Json.quoted (Jwk.encodeNat key.exponent)),
    ("kid", Json.quoted thumbprint)])]

/-- Members, each with its text, that say what a request to a target says of a
key and its thumbprint. -/
structure ClaimTexts (members : List (String × String)) (request : Request)
    (target : RequestTarget) (key : Rsa.PublicKey) (thumbprint : String) :
    Prop where
  ordered : (members.map Prod.fst).Sublist ["at", "ts", "u", "cnf", "p", "m",
    "nonce", "client_claims"]
  timestamp : members.lookup "ts" = some (toString request.timestamp)
  authority : members.lookup "u" = some (Json.quoted target.authority)
  confirmation : members.lookup "cnf" = some (confirmationText key thumbprint)
  accessToken : Shows (members.lookup "at") request.accessToken
  path : Shows (members.lookup "p") (some target.path)
  method : Shows (members.lookup "m") request.method
  nonce : Shows (members.lookup "nonce") request.nonce
  clientClaims : Shows (members.lookup "client_claims") request.clientClaims

namespace RequestClaims

theorem encode_eq (claims : RequestClaims) :
    Json.encode claims = Json.objectText (Json.presentTexts claims.members) :=
  Json.render_ofPresent claims.members

theorem withoutNull_members (claims : RequestClaims) :
    ∀ member ∈ claims.members, Json.WithoutNull member.2 := by
  have key :
      Json.WithoutNull (some (Json.Codec.toValue claims.confirmation.key)) := by
    apply Json.withoutNull_ofPresent
    simp only [List.forall_mem_cons]
    exact ⟨Json.withoutNull_text (some Jwk.kind), Json.withoutNull_text _,
      Json.withoutNull_text (some _),
      Json.withoutNull_text (some _), Json.withoutNull_text _, by simp⟩
  have confirmation : Json.WithoutNull
      (some (Json.Codec.toValue claims.confirmation)) := by
    apply Json.withoutNull_ofPresent
    simp only [List.forall_mem_cons]
    exact ⟨key, by simp⟩
  simp only [members, List.forall_mem_cons]
  exact ⟨Json.withoutNull_text _, Json.withoutNull_int _,
    Json.withoutNull_text (some _), confirmation,
    Json.withoutNull_text _, Json.withoutNull_text _, Json.withoutNull_text _,
    Json.withoutNull_text _, by simp⟩

theorem listsNames_encode (claims : RequestClaims) :
    Json.ListsNames (Utf8.encode (Json.encode claims))
      ((Json.presentTexts claims.members).map Prod.fst) := by
  rw [encode_eq]
  exact Json.listsNames_ofPresent claims.withoutNull_members

end RequestClaims

variable (request : Request) (target : RequestTarget) (key : Rsa.PublicKey)
  (thumbprint : String)

def Request.claimTexts : List (String × String) :=
  Json.presentTexts (request.claims target key thumbprint).members

theorem Request.render_confirmation :
    (Json.Codec.toValue
      (request.claims target key thumbprint).confirmation).render =
    confirmationText key thumbprint := by
  have form :
      (Json.Codec.toValue ((Jwk.ofPublicKey key).withKeyId thumbprint)).render =
      Json.objectText [("kty", Json.quoted "RSA"),
        ("n", Json.quoted (Jwk.encodeNat key.modulus)),
        ("e", Json.quoted (Jwk.encodeNat key.exponent)),
        ("kid", Json.quoted thumbprint)] :=
    Json.render_ofPresent _
  rw [confirmationText, ← form]
  exact Json.render_ofPresent _

theorem Request.claimTexts_spec :
    ClaimTexts (request.claimTexts target key thumbprint) request target
      key thumbprint := by
  have listed (name : String) :
      (request.claimTexts target key thumbprint).lookup name =
      ((request.claims target key thumbprint).members.lookup name).join.map
        Json.Value.render :=
    Json.lookup_presentTexts (RequestClaims.members_distinct _) name
  have text (name : String) (argument : Option String)
      (stands : (request.claims target key thumbprint).members.lookup name =
        some ((nonEmpty argument).map .string)) :
      Shows ((request.claimTexts target key thumbprint).lookup name)
        argument := by
    rw [listed, stands, Option.join_some, Option.map_map]
    exact shows_nonEmpty argument
  exact {
    ordered := Json.names_presentTexts _
    timestamp := by
      rw [listed]
      exact congrArg some (Json.render_int _)
    authority := by
      rw [listed]
      rfl
    confirmation := by
      rw [listed]
      exact congrArg some (request.render_confirmation target key thumbprint)
    accessToken := text "at" _ rfl
    path := text "p" _ rfl
    method := text "m" _ rfl
    nonce := text "nonce" _ rfl
    clientClaims := text "client_claims" _ rfl }

/-- An access token that is not empty puts its member in front of the others. -/
theorem Request.claimTexts_bearing
    {accessToken : String} (present : accessToken ≠ "") :
    (request.bearing accessToken).claimTexts target key thumbprint =
      ("at", Json.quoted accessToken) :: request.bare.claimTexts target
        key thumbprint := by
  change Json.presentTexts
    (("at", (nonEmpty (some accessToken)).map .string) :: _) = _
  rw [nonEmpty_some, if_neg present]
  rfl

theorem Request.at_notMem_claimTexts_bare :
    "at" ∉ (request.bare.claimTexts target key thumbprint).map Prod.fst := by
  intro member
  have listed : "at" ∈ ["ts", "u", "cnf", "p", "m", "nonce", "client_claims"] :=
    (Json.names_presentTexts
      (request.bare.claims target key thumbprint).members.tail).subset member
  simp at listed

/-! ### Tokens -/

namespace Manager

variable {σ : Type} {handler : Program.Handler StoreInterface σ} {state : σ}
  {manager : Manager} {tape : Tape} {token : String} {request}

theorem payload?_of_minted
    (made : manager.minted handler state tape request = some (.ok token)) :
    ∃ target entry thumbprint, RequestTarget.parse request.url = .ok target ∧
      (handler state .entry).1 = some (.ok entry) ∧
      manager.thumbprintOf entry = .ok thumbprint ∧
      Jws.payload? token =
        some (Utf8.encode (Json.encode
          (request.claims target entry.publicKey thumbprint))) := by
  rcases minted_eq_ok_iff.1 made with ⟨target, entry, thumbprint, _, signature,
    parsed, held, identified, _, _, whole⟩
  rw [whole]
  exact ⟨target, entry, thumbprint, parsed, held, identified,
    Jws.payload?_token _ _ signature⟩

/-- The payload of every token that a manager makes for a request is the text of
an object without white space: its members come in one order and once each, each
says what the request says of it, those without an argument are left out, and
`null` stands nowhere. As long as the store holds the same entry, an access
token that is not empty puts one member in front and changes nothing else. -/
theorem minted_claim_text (manager : Manager)
    (handler : Program.Handler StoreInterface σ) (state : σ)
    (request : Request) :
    (∀ tape token, manager.minted handler state tape request = some (.ok token) →
      ∃ target entry thumbprint members,
        RequestTarget.parse request.url = .ok target ∧
        (handler state .entry).1 = some (.ok entry) ∧
        manager.thumbprintOf entry = .ok thumbprint ∧
        Jws.payload? token = some (Utf8.encode (Json.objectText members)) ∧
        ClaimTexts members request target entry.publicKey thumbprint ∧
        Json.ListsNames (Utf8.encode (Json.objectText members))
          (members.map Prod.fst)) ∧
    ∀ later accessToken, (handler later .entry).1 = (handler state .entry).1 →
      accessToken ≠ "" →
      ∀ tape otherTape token bare,
      manager.minted handler state tape (request.bearing accessToken) =
        some (.ok token) →
      manager.minted handler later otherTape request.bare = some (.ok bare) →
      ∃ members, "at" ∉ members.map Prod.fst ∧
        Jws.payload? token =
          some (Utf8.encode
            (Json.objectText (("at", Json.quoted accessToken) :: members))) ∧
        Jws.payload? bare = some (Utf8.encode (Json.objectText members)) := by
  constructor
  · intro tape token made
    rcases payload?_of_minted made with ⟨target, entry, thumbprint, parsed,
      held, identified, payload⟩
    have names :=
      (request.claims target entry.publicKey thumbprint).listsNames_encode
    rw [RequestClaims.encode_eq] at payload names
    exact ⟨target, entry, thumbprint, request.claimTexts target entry.publicKey
      thumbprint, parsed, held, identified,
      payload, request.claimTexts_spec target entry.publicKey thumbprint, names⟩
  · intro later accessToken sameEntry present tape otherTape token
      bare made bareMade
    rcases payload?_of_minted made with ⟨target, entry, thumbprint, parsed,
      held, identified, payload⟩
    rcases payload?_of_minted bareMade with
      ⟨bareTarget, bareEntry, bareThumbprint, bareParsed, bareHeld,
        bareIdentified, barePayload⟩
    have oneTarget : target = bareTarget :=
      Except.ok.inj (parsed.symm.trans bareParsed)
    have oneEntry : entry = bareEntry := by
      rw [sameEntry, held] at bareHeld
      exact Except.ok.inj (Option.some.inj bareHeld)
    subst oneTarget
    subst oneEntry
    have oneThumbprint : thumbprint = bareThumbprint :=
      Except.ok.inj (identified.symm.trans bareIdentified)
    subst oneThumbprint
    refine ⟨request.bare.claimTexts target entry.publicKey thumbprint,
      request.at_notMem_claimTexts_bare _ _ _, ?_, ?_⟩
    · rw [payload, RequestClaims.encode_eq,
        ← request.claimTexts_bearing target entry.publicKey thumbprint present]
      rfl
    · rw [barePayload, RequestClaims.encode_eq]
      rfl

/-- The case of an access token that looks like another member, of an empty
method and of a claim that is escaped. -/
theorem minted_claim_text_door : ∃ token bare members,
    standardManager.minted ProvisionedStore.handler mersenneStore (.ofSeed 0)
      (doorRequest.bearing "a\",\"m\":\"GET") = some (.ok token) ∧
    standardManager.minted ProvisionedStore.handler mersenneStore (.ofSeed 0)
      doorRequest.bare = some (.ok bare) ∧
    Jws.payload? bare = some (Utf8.encode (Json.objectText members)) ∧
    members.lookup "ts" = some "-1" ∧ members.lookup "m" = none ∧
    members.lookup "client_claims" = some "\"\\\"a\\nb\\\"\"" ∧
    ∃ others, Jws.payload? token =
        some (Utf8.encode
          (Json.objectText (("at", "\"a\\\",\\\"m\\\":\\\"GET\"") :: others))) ∧
      Jws.payload? bare = some (Utf8.encode (Json.objectText others)) := by
  rcases exists_minted_mersenne (doorRequest.bearing "a\",\"m\":\"GET")
    parse_doorRequest with ⟨token, made⟩
  rcases exists_minted_mersenne doorRequest.bare
    parse_doorRequest with ⟨bare, bareMade⟩
  have onBare := (minted_claim_text standardManager ProvisionedStore.handler
    mersenneStore doorRequest.bare).1
  have onBoth := (minted_claim_text standardManager ProvisionedStore.handler
    mersenneStore doorRequest).2
  rcases onBare _ _ bareMade with ⟨_, _, _, members, _, _, _, payload, texts, _⟩
  rcases onBoth mersenneStore "a\",\"m\":\"GET" rfl (by decide)
    _ _ _ _ made bareMade with ⟨others, _, withToken, without⟩
  refine ⟨token, bare, members, made, bareMade, payload, texts.timestamp, ?_,
    ?_, others, withToken, without⟩
  · apply Option.eq_none_iff_forall_ne_some.2
    intro text stands
    rcases (texts.method text).1 stands with ⟨value, given, present, _⟩
    exact present (Option.some.inj given).symm
  · exact (texts.clientClaims _).2 ⟨"\"a\nb\"", rfl, by decide, by decide +kernel⟩

end Manager

end BoundKey
