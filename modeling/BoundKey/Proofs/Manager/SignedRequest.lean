import BoundKey.Manager.Request
import BoundKey.Proofs.Digest
import BoundKey.Proofs.Jwk
import BoundKey.Proofs.Jws
import BoundKey.Proofs.Manager.Signature

set_option autoImplicit false

/-!
Tokens of signed requests. What a token says is read back from it: the header,
the claims, the key, and a signature that the key accepts. Reading goes level by
level through the nested records, and every encoder meets its decoder.
-/

namespace BoundKey

/-! ### Claims read back -/

private def Confirmation.members (confirmation : Confirmation) :
    List (String × Option Json.Value) :=
  [("jwk", some (Json.Codec.toValue confirmation.key))]

theorem Confirmation.read?_toValue (confirmation : Confirmation) (depth : Nat) :
    Json.Codec.read? (depth + 2) (Json.Codec.toValue confirmation).tree =
      some confirmation := by
  have distinct : (confirmation.members.map Prod.fst).Nodup := by
    change ["jwk"].Nodup
    decide
  have record : (Json.Codec.toValue confirmation).tree.record?
      ["jwk"] (depth + 2) =
      some (Json.printedRecord (depth + 1) confirmation.members) :=
    Json.record?_ofPresent distinct (fun _ listed => listed) (depth + 1)
  have key : (Json.printedRecord (depth + 1) confirmation.members).required
      "jwk" Json.Codec.read? = some confirmation.key := by
    have printed : confirmation.members.lookup "jwk" =
        some (some (Json.Codec.toValue confirmation.key)) := rfl
    rw [Json.required_printed distinct (depth + 1) printed, Jwk.read?_toValue]
  change ((Json.Codec.toValue confirmation).tree.record? ["jwk"]
    (depth + 2)).bind _ = _
  rw [record, Option.bind_some, key]
  rfl

namespace RequestClaims

def members (claims : RequestClaims) : List (String × Option Json.Value) :=
  [("at", claims.accessToken.map .string), ("ts", some (.int claims.timestamp)),
    ("u", some (.string claims.authority)),
    ("cnf", some (Json.Codec.toValue claims.confirmation)),
    ("p", claims.path.map .string), ("m", claims.method.map .string),
    ("nonce", claims.nonce.map .string),
    ("client_claims", claims.clientClaims.map .string)]

theorem members_distinct (claims : RequestClaims) :
    (claims.members.map Prod.fst).Nodup := by
  change memberNames.Nodup
  decide

theorem read?_toValue {claims : RequestClaims}
    (lower : -2 ^ 63 ≤ claims.timestamp) (upper : claims.timestamp < 2 ^ 63)
    (depth : Nat) :
    Json.Codec.read? (depth + 3) (Json.Codec.toValue claims).tree =
      some claims := by
  have distinct := claims.members_distinct
  have record : (Json.Codec.toValue claims).tree.record? memberNames (depth + 3) =
      some (Json.printedRecord (depth + 2) claims.members) :=
    Json.record?_ofPresent distinct (fun _ listed => listed) (depth + 2)
  have accessToken : (Json.printedRecord (depth + 2) claims.members).optional
      "at" Json.Reader.text = some claims.accessToken :=
    Json.optional_text distinct (depth + 2) rfl
  have timestamp : (Json.printedRecord (depth + 2) claims.members).required "ts"
      Json.Reader.signed = some claims.timestamp := by
    have printed : claims.members.lookup "ts" =
        some (some (.int claims.timestamp)) := rfl
    rw [Json.required_printed distinct (depth + 2) printed,
      Json.Reader.signed_tree (depth + 2) lower upper]
  have authority : (Json.printedRecord (depth + 2) claims.members).required "u"
      Json.Reader.text = some claims.authority :=
    Json.required_text distinct (depth + 2) rfl
  have confirmation : (Json.printedRecord (depth + 2) claims.members).required
      "cnf" Json.Codec.read? = some claims.confirmation := by
    have printed : claims.members.lookup "cnf" =
        some (some (Json.Codec.toValue claims.confirmation)) := rfl
    rw [Json.required_printed distinct (depth + 2) printed,
      Confirmation.read?_toValue]
  have path : (Json.printedRecord (depth + 2) claims.members).optional "p"
      Json.Reader.text = some claims.path :=
    Json.optional_text distinct (depth + 2) rfl
  have method : (Json.printedRecord (depth + 2) claims.members).optional "m"
      Json.Reader.text = some claims.method :=
    Json.optional_text distinct (depth + 2) rfl
  have nonce : (Json.printedRecord (depth + 2) claims.members).optional "nonce"
      Json.Reader.text = some claims.nonce :=
    Json.optional_text distinct (depth + 2) rfl
  have clientClaims : (Json.printedRecord (depth + 2) claims.members).optional
      "client_claims" Json.Reader.text =
      some claims.clientClaims := Json.optional_text distinct (depth + 2) rfl
  change ((Json.Codec.toValue claims).tree.record? memberNames
    (depth + 3)).bind _ = _
  rw [record, Option.bind_some, accessToken, timestamp, authority, confirmation,
    path, method, nonce, clientClaims]
  rfl

end RequestClaims

theorem Request.claims_read {request : Request}
    (lower : -2 ^ 63 ≤ request.timestamp)
    (upper : request.timestamp < 2 ^ 63) (target : RequestTarget)
    (key : Rsa.PublicKey) (thumbprint : String) :
    Json.Codec.read? Json.maxDepth
      (Json.Codec.toValue (request.claims target key thumbprint)).tree =
      some (request.claims target key thumbprint) :=
  RequestClaims.read?_toValue lower upper 124

/-- A claim says what an argument says: the same text, unless there is none or
it is empty. -/
def Says (claim argument : Option String) : Prop :=
  ∀ text, claim = some text ↔ argument = some text ∧ text ≠ ""

theorem says_nonEmpty (argument : Option String) :
    Says (nonEmpty argument) argument := by
  intro text
  rw [nonEmpty, Option.filter_eq_some_iff]
  simp

namespace Manager

variable {σ : Type}

/-! ### Making a token -/

def tokenOf (manager : Manager) (tape : Tape) (request : Request)
    (target : RequestTarget) (entry : KeyEntry) :
    Except Failure String := do
  let thumbprint ← manager.thumbprintOf entry
  let signer ← manager.signer .sha256
  (Id.run (Jws.tokenize (Request.header thumbprint)
    (request.claims target entry.publicKey thumbprint) fun message =>
    pure (signer.sign tape message entry.privateKey))).mapError .ofJws

/-- A token is made of one entry: the thumbprint, the key among the claims and
the signature are all of its key. -/
theorem tokenOf_eq_ok_iff {manager : Manager} {tape : Tape} {request : Request}
    {target : RequestTarget} {entry : KeyEntry} {token : String} :
    manager.tokenOf tape request target entry = .ok token ↔
      ∃ thumbprint signer signature,
      manager.thumbprintOf entry = .ok thumbprint ∧
        manager.signer .sha256 = .ok signer ∧
      signer.sign tape (Utf8.encode (Jws.signingInput (Request.header thumbprint)
        (request.claims target entry.publicKey thumbprint))) entry.privateKey =
        .ok signature ∧
      token = Jws.token (Request.header thumbprint)
        (request.claims target entry.publicKey thumbprint) signature := by
  rw [tokenOf, bind_eq_ok_iff]
  constructor
  · rintro ⟨thumbprint, identified, later⟩
    obtain ⟨signer, found, made⟩ := bind_eq_ok_iff.1 later
    rw [Jws.tokenize_run, mapError_eq_ok_iff, mapError_eq_ok_iff,
      map_eq_ok_iff] at made
    obtain ⟨signature, signed, same⟩ := made
    exact ⟨thumbprint, signer, signature, identified, found, signed, same.symm⟩
  · rintro ⟨thumbprint, signer, signature, identified, found, signed, made⟩
    refine ⟨thumbprint, identified, bind_eq_ok_iff.2 ⟨signer, found, ?_⟩⟩
    rw [Jws.tokenize_run, mapError_eq_ok_iff, mapError_eq_ok_iff, map_eq_ok_iff]
    exact ⟨signature, signed, made.symm⟩

theorem tokenFor_of_parse {manager : Manager} {tape : Tape} {request : Request}
    {target : RequestTarget}
    (parsed : RequestTarget.parse request.url = .ok target) :
    manager.tokenFor tape request =
      manager.entry >>= fun entry => Operation.ofExcept
        (manager.tokenOf tape request target entry) := by
  rw [tokenFor, parsed, Operation.ofExcept_bind]
  simp only [Operation.ofExcept_bind_ofExcept]
  rfl

theorem run_mint (handler : Program.Handler StoreInterface σ) (state : σ)
    (manager : Manager) (tape : Tape)
    {request : Request} {target : RequestTarget}
    (parsed : RequestTarget.parse request.url = .ok target) :
    (Program.run handler state (manager.mint tape request).run).1 =
      ((handler state .entry).1).map fun answer =>
        answer.mapError Failure.ofStore >>=
          manager.tokenOf tape request target := by
  rw [mint, (Operation.run_reporting handler state _ _).1,
    tokenFor_of_parse parsed]
  exact run_entry_bind handler state manager (manager.tokenOf tape request target)

theorem run_mint_of_refused (handler : Program.Handler StoreInterface σ)
    (state : σ) (manager : Manager) (tape : Tape)
    {request : Request} {failure : Failure}
    (refused : RequestTarget.parse request.url = .error failure) :
    (Program.run handler state (manager.mint tape request).run).1 =
      some (.error failure) := by
  rw [mint, (Operation.run_reporting handler state _ _).1, tokenFor, refused]
  rfl

/-- A token comes from a URL that was read and from the entry that the store
answered with. -/
theorem run_mint_eq_ok_iff {handler : Program.Handler StoreInterface σ}
    {state : σ} {manager : Manager} {tape : Tape}
    {request : Request} {token : String} :
    (Program.run handler state (manager.mint tape request).run).1 =
      some (.ok token) ↔
      ∃ target entry, RequestTarget.parse request.url = .ok target ∧
        (handler state .entry).1 = some (.ok entry) ∧
        manager.tokenOf tape request target entry = .ok token := by
  cases parsed : RequestTarget.parse request.url with
  | error failure =>
      rw [run_mint_of_refused handler state manager tape parsed]
      constructor
      · nofun
      · rintro ⟨_, _, read, _⟩
        cases read
  | ok target =>
      rw [run_mint handler state manager tape parsed, Option.map_eq_some_iff]
      constructor
      · rintro ⟨answer, answered, worked⟩
        rcases bind_eq_ok_iff.1 worked with ⟨entry, found, made⟩
        rw [mapError_eq_ok_iff.1 found] at answered
        exact ⟨target, entry, rfl, answered, made⟩
      · rintro ⟨_, entry, read, answered, made⟩
        cases read
        exact ⟨.ok entry, answered, made⟩

/-! ### The standard provider -/

def thumbprintText (key : Rsa.PublicKey) : String :=
  Base64.encode .url
    (Digest.sha256.hash (Utf8.encode (Jwk.ofPublicKey key).canonicalText))

theorem thumbprint_eq (key : Rsa.PublicKey) :
    key.thumbprint = .ok (thumbprintText key) := rfl

theorem thumbprintOf_standard {manager : Manager}
    (standard : manager.provider = .standard) (entry : KeyEntry) :
    manager.thumbprintOf entry = .ok (thumbprintText entry.publicKey) := by
  rw [thumbprintOf, Manager.hasher, standard]
  rfl

theorem sign_sha256 {manager : Manager}
    (standard : manager.provider = .standard) {key : Rsa.PrivateKey}
    (sound : key.IsSound) (large : 62 ≤ key.size) (tape : Tape)
    (message : Bytes) :
    ∃ signature, manager.signer .sha256 = .ok (.pkcs1 .sha256) ∧
      (Signer.pkcs1 .sha256).sign tape message key = .ok signature ∧
      signature ≠ [] ∧
      (Signer.pkcs1 .sha256).verify message signature key.publicKey = .ok () := by
  have fits : (Rsa.Pkcs1.digestInfo .sha256 message).length +
      Rsa.Pkcs1.overhead ≤ key.size := by
    rw [Rsa.Pkcs1.digestInfo, List.length_append, Digest.hash_length]
    exact large
  obtain ⟨signature, made⟩ := Rsa.Pkcs1.sign_ok sound fits
  have signed : (Signer.pkcs1 .sha256).sign tape message key = .ok signature :=
    mapError_eq_ok_iff.2 made
  refine ⟨signature, ?_, signed, ?_,
    (isExact_pkcs1 sound .sha256 tape message signature).2 signed⟩
  · rw [signer_standard standard]
    rfl
  · intro empty
    have length := Rsa.Pkcs1.sign_length made
    rw [empty, List.length_nil] at length
    omega

/-! ### End to end -/

/-- A request to a readable URL is signed with every sound and usable key of
2048 bits or more, and the token says what was asked for: the header names the
algorithm and the key, the claims are the arguments, and the key among the
claims is the public key of the entry, which accepts the signature. -/
theorem mint_says_request {handler : Program.Handler StoreInterface σ}
    {state : σ} {manager : Manager}
    (standard : manager.provider = .standard) {entry : KeyEntry}
    (held : (handler state .entry).1 = some (.ok entry))
    (sound : entry.privateKey.IsSound)
    (large : 2048 ≤ bitLength entry.privateKey.modulus)
    (usable : Rsa.PublicKey.ofParts entry.publicKey.modulus
      entry.publicKey.exponent = .ok entry.publicKey)
    (tape : Tape) {request : Request} {target : RequestTarget}
    (parsed : RequestTarget.parse request.url = .ok target)
    (lower : -2 ^ 63 ≤ request.timestamp) (upper : request.timestamp < 2 ^ 63) :
    ∃ token thumbprint parts,
      (Program.run handler state (manager.mint tape request).run).1 =
        some (.ok token) ∧
      entry.publicKey.thumbprint = .ok thumbprint ∧
      Jws.decompose RequestClaims token = .ok parts ∧
      parts.header = ⟨"RS256", some "JWT", some thumbprint, none⟩ ∧
      Says parts.payload.accessToken request.accessToken ∧
      Says parts.payload.method request.method ∧
      Says parts.payload.nonce request.nonce ∧
      Says parts.payload.clientClaims request.clientClaims ∧
      parts.payload.timestamp = request.timestamp ∧
      parts.payload.authority = target.authority ∧
      Says parts.payload.path (some target.path) ∧
      parts.payload.confirmation.key =
        (Jwk.ofPublicKey entry.publicKey).withKeyId thumbprint ∧
      parts.payload.confirmation.key.toPublicKey = .ok entry.publicKey ∧
      (Signer.pkcs1 .sha256).verify (Utf8.encode parts.signingInput)
        parts.signature entry.publicKey = .ok () := by
  have wide : 62 ≤ entry.privateKey.size := by
    change 62 ≤ (bitLength entry.privateKey.modulus + 7) / 8
    omega
  obtain ⟨signature, found, signed, present, accepted⟩ :=
    sign_sha256 standard sound wide tape
    (Utf8.encode (Jws.signingInput
      (Request.header (thumbprintText entry.publicKey))
      (request.claims target entry.publicKey (thumbprintText entry.publicKey))))
  have made := tokenOf_eq_ok_iff.2
    ⟨_, _, signature, thumbprintOf_standard standard entry, found, signed, rfl⟩
  have read : Json.Codec.read? Json.maxDepth
      (Json.Codec.toValue (request.claims target entry.publicKey
        (thumbprintText entry.publicKey))).tree =
        some (request.claims target entry.publicKey
          (thumbprintText entry.publicKey)) :=
    RequestClaims.read?_toValue lower upper 124
  refine ⟨_, thumbprintText entry.publicKey, _, ?_, thumbprint_eq _,
    Jws.decompose_token _ read present, rfl,
    says_nonEmpty _, says_nonEmpty _, says_nonEmpty _, says_nonEmpty _, rfl,
    rfl, ?_, rfl, ?_, accepted⟩
  · rw [run_mint handler state manager tape parsed, held]
    exact congrArg some made
  · change Says (nonEmpty (some target.path)) (some target.path)
    exact says_nonEmpty (some target.path)
  · exact (Jwk.toPublicKey_withKeyId _ _).trans
      (Jwk.toPublicKey_ofPublicKey usable)

def doorRequest : Request :=
  ⟨" https://[::1]:8443/door?open#now", -1, some "", none,
    some "\"a\nb\"", some "token"⟩

theorem mint_says_request_mersenne :
    RequestTarget.parse doorRequest.url = .ok ⟨"[::1]:8443", "/door"⟩ ∧
    ∃ token thumbprint parts,
      (Program.run ProvisionedStore.handler mersenneStore
        (standardManager.mint (.ofSeed 0) doorRequest).run).1 =
        some (.ok token) ∧
      mersenneEntry.publicKey.thumbprint = .ok thumbprint ∧
      Jws.decompose RequestClaims token = .ok parts ∧
      parts.header = ⟨"RS256", some "JWT", some thumbprint, none⟩ ∧
      Says parts.payload.accessToken (some "token") ∧
      Says parts.payload.method (some "") ∧
      Says parts.payload.nonce none ∧
      Says parts.payload.clientClaims (some "\"a\nb\"") ∧
      parts.payload.timestamp = -1 ∧
      parts.payload.authority = "[::1]:8443" ∧
      Says parts.payload.path (some "/door") ∧
      parts.payload.confirmation.key =
        (Jwk.ofPublicKey mersenneEntry.publicKey).withKeyId thumbprint ∧
      parts.payload.confirmation.key.toPublicKey = .ok mersenneEntry.publicKey ∧
      (Signer.pkcs1 .sha256).verify (Utf8.encode parts.signingInput)
        parts.signature mersenneEntry.publicKey = .ok () := by
  have parsed : RequestTarget.parse doorRequest.url =
      .ok ⟨"[::1]:8443", "/door"⟩ := by
    decide +kernel
  have held : (ProvisionedStore.handler mersenneStore .entry).1 =
      some (.ok mersenneEntry) := rfl
  have large : 2048 ≤ bitLength mersenneEntry.privateKey.modulus := by
    decide +kernel
  have usable : Rsa.PublicKey.ofParts mersenneEntry.publicKey.modulus
      mersenneEntry.publicKey.exponent = .ok mersenneEntry.publicKey := by
    decide +kernel
  refine ⟨parsed, ?_⟩
  exact mint_says_request rfl held Rsa.mersenneKey_isSound large usable
    (.ofSeed 0) parsed (by decide) (by decide)

end Manager

end BoundKey
