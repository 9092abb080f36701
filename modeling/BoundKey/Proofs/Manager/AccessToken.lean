import BoundKey.Proofs.Jws.RoundTrip
import BoundKey.Proofs.Manager.SignedRequest

set_option autoImplicit false

/-!
Access tokens in signed requests. The token of a request says the access token
unless this is empty; an empty one is left out like every other empty value, and
the request is then answered as the same request without an access token. So the
token of a request with an access token that is not empty is never the token of
a request without one.
-/

namespace BoundKey

def Request.bearing (request : Request) (accessToken : String) : Request :=
  { request with accessToken := some accessToken }

def Request.bare (request : Request) : Request :=
  { request with accessToken := none }

theorem nonEmpty_some (text : String) :
    nonEmpty (some text) = if text = "" then none else some text := by
  by_cases empty : text = ""
  · rw [if_pos empty, empty]
    rfl
  · rw [if_neg empty, nonEmpty, Option.filter_some, if_pos]
    simpa using empty

namespace Manager

variable {σ : Type} {handler : Program.Handler StoreInterface σ} {state : σ}
  {manager : Manager} {tape : Tape} {request : Request} {token : String}

def minted (manager : Manager) (handler : Program.Handler StoreInterface σ)
    (state : σ) (tape : Tape) (request : Request) :
    Option (Except Failure String) :=
  (Program.run handler state (manager.mint tape request).run).1

/-- Taken apart, the token says something of the access token. Only a provider
of other signers than the standard ones can leave a token unsigned, which then
lacks a part. -/
def Yields (manager : Manager) (token : String) (accessToken : Option String) :
    Prop :=
  (∃ parts, Jws.decompose RequestClaims token = .ok parts ∧
    parts.payload.accessToken = accessToken) ∨
    (manager.provider ≠ .standard ∧
      Jws.decompose RequestClaims token =
        .error (.couldNotExtract "Missing token part"))

/-! ### What a token is made of -/

theorem minted_eq_ok_iff : manager.minted handler state tape request =
    some (.ok token) ↔
    ∃ target entry thumbprint signer signature,
      RequestTarget.parse request.url = .ok target ∧
      (handler state .entry).1 = some (.ok entry) ∧
      manager.thumbprintOf entry = .ok thumbprint ∧
      manager.signer .sha256 = .ok signer ∧
      signer.sign tape (Utf8.encode (Jws.signingInput (Request.header thumbprint)
        (request.claims target entry.publicKey thumbprint))) entry.privateKey =
        .ok signature ∧
      token = Jws.token (Request.header thumbprint)
        (request.claims target entry.publicKey thumbprint) signature := by
  rw [minted, run_mint_eq_ok_iff]
  constructor
  · rintro ⟨target, entry, parsed, held, made⟩
    rcases tokenOf_eq_ok_iff.1 made with ⟨thumbprint, signer, signature, rest⟩
    exact ⟨target, entry, thumbprint, signer, signature, parsed, held, rest⟩
  · rintro ⟨target, entry, thumbprint, signer, signature, parsed, held, rest⟩
    exact ⟨target, entry, parsed, held,
      tokenOf_eq_ok_iff.2 ⟨thumbprint, signer, signature, rest⟩⟩

theorem standard_signature_ne_nil (standard : manager.provider = .standard)
    {signer : Signer} (found : manager.signer .sha256 = .ok signer)
    {message signature : Bytes} {key : Rsa.PrivateKey}
    (signed : signer.sign tape message key = .ok signature) : signature ≠ [] := by
  rw [signer_standard standard] at found
  cases found
  exact Rsa.Pkcs1.sign_ne_nil (mapError_eq_ok_iff.1 signed)

theorem yields_of_minted (lower : -2 ^ 63 ≤ request.timestamp)
    (upper : request.timestamp < 2 ^ 63)
    (made : manager.minted handler state tape request = some (.ok token)) :
    manager.Yields token (nonEmpty request.accessToken) := by
  rcases minted_eq_ok_iff.1 made with ⟨target, entry, thumbprint, signer,
    signature, _, _, _, found, signed, rfl⟩
  by_cases empty : signature = []
  · right
    constructor
    · intro standard
      exact standard_signature_ne_nil standard found signed empty
    · rw [empty]
      exact Jws.decompose_token_nil _ _
  · left
    exact ⟨_, Jws.decompose_token _ (Request.claims_read lower upper target
      entry.publicKey thumbprint) empty, rfl⟩

/-! ### Two requests -/

/-- One token is not made for two requests that say different access tokens,
whoever makes it and from whatever key. -/
theorem accessToken_of_token {τ : Type}
    {others : Program.Handler StoreInterface τ} {place : τ} {other : Manager}
    {otherTape : Tape} {otherRequest : Request}
    (lower : -2 ^ 63 ≤ request.timestamp)
    (upper : request.timestamp < 2 ^ 63)
    (otherLower : -2 ^ 63 ≤ otherRequest.timestamp)
    (otherUpper : otherRequest.timestamp < 2 ^ 63)
    (made : manager.minted handler state tape request = some (.ok token))
    (again : other.minted others place otherTape otherRequest =
      some (.ok token)) :
    nonEmpty request.accessToken = nonEmpty otherRequest.accessToken := by
  rcases minted_eq_ok_iff.1 made with ⟨target, entry, thumbprint, _, _, _,
    _, _, _, _, whole⟩
  rcases minted_eq_ok_iff.1 again with ⟨otherTarget, otherEntry,
    otherThumbprint, _, _, _, _, _, _, _, otherWhole⟩
  have same :=
    (Jws.token_inj (Request.claims_read lower upper target
      entry.publicKey thumbprint)
    (Request.claims_read otherLower otherUpper otherTarget otherEntry.publicKey
      otherThumbprint)).1 (whole.symm.trans otherWhole)
  exact congrArg RequestClaims.accessToken same.2.1

theorem minted_bearing_empty :
    manager.minted handler state tape (request.bearing "") =
    manager.minted handler state tape request.bare := by
  have same : manager.tokenFor tape (request.bearing "") =
      manager.tokenFor tape request.bare := by
    have claims (target : RequestTarget) (key : Rsa.PublicKey)
        (thumbprint : String) : (request.bearing "").claims target key
          thumbprint = request.bare.claims target key thumbprint := rfl
    simp only [tokenFor, claims]
    rfl
  rw [minted, minted, mint, mint, (Operation.run_reporting handler state _ _).1,
    (Operation.run_reporting handler state _ _).1, same]

/-- The token of a request with an access token says it, unless it is empty, and
the token of a request without one says none. If the access token is empty, both
requests are answered alike; if not, the token of the one is not the token of
any request without an access token, whatever its other arguments are, in no
state of no store. -/
theorem accessToken_said_iff (manager : Manager)
    (handler : Program.Handler StoreInterface σ) (state : σ) (tape : Tape)
    {request : Request} (lower : -2 ^ 63 ≤ request.timestamp)
    (upper : request.timestamp < 2 ^ 63) (accessToken : String) :
    (∀ token, manager.minted handler state tape (request.bearing accessToken) =
      some (.ok token) →
      manager.Yields token (if accessToken = "" then none
        else some accessToken)) ∧
    (∀ token, manager.minted handler state tape request.bare =
      some (.ok token) → manager.Yields token none) ∧
    (accessToken = "" →
      manager.minted handler state tape (request.bearing accessToken) =
      manager.minted handler state tape request.bare) ∧
    (accessToken ≠ "" → ∀ token,
      manager.minted handler state tape (request.bearing accessToken) =
        some (.ok token) →
      ∀ {τ : Type} (others : Program.Handler StoreInterface τ) (place : τ)
        (other : Manager) (otherTape : Tape)
        (otherRequest : Request), -2 ^ 63 ≤ otherRequest.timestamp →
          otherRequest.timestamp < 2 ^ 63 →
        other.minted others place otherTape otherRequest.bare ≠
          some (.ok token)) := by
  refine ⟨?_, ?_, ?_, ?_⟩
  · intro token made
    have yields : manager.Yields token
        (nonEmpty (request.bearing accessToken).accessToken) :=
      yields_of_minted lower upper made
    rw [← nonEmpty_some]
    exact yields
  · intro token made
    have yields : manager.Yields token (nonEmpty request.bare.accessToken) :=
      yields_of_minted lower upper made
    exact yields
  · intro empty
    rw [empty]
    exact minted_bearing_empty
  · intro present token made τ others place other otherTape otherRequest
      otherLower otherUpper again
    have same : nonEmpty (request.bearing accessToken).accessToken =
        nonEmpty otherRequest.bare.accessToken :=
      accessToken_of_token lower upper otherLower otherUpper made again
    change nonEmpty (some accessToken) = none at same
    rw [nonEmpty_some, if_neg present] at same
    cases same

/-! ### A key of two Mersenne primes -/

theorem exists_minted (standard : manager.provider = .standard) {entry : KeyEntry}
    (held : (handler state .entry).1 = some (.ok entry))
    (sound : entry.privateKey.IsSound)
    (wide : 62 ≤ entry.privateKey.size) {target : RequestTarget}
    (parsed : RequestTarget.parse request.url = .ok target) :
    ∃ token, manager.minted handler state tape request = some (.ok token) := by
  obtain ⟨signature, found, signed, _, _⟩ := sign_sha256 standard sound wide tape
    (Utf8.encode (Jws.signingInput
      (Request.header (thumbprintText entry.publicKey))
      (request.claims target entry.publicKey (thumbprintText entry.publicKey))))
  exact ⟨_, minted_eq_ok_iff.2 ⟨target, entry, _, _, signature, parsed, held,
    thumbprintOf_standard standard entry, found, signed, rfl⟩⟩

theorem exists_minted_mersenne (request : Request) {target : RequestTarget}
    (parsed : RequestTarget.parse request.url = .ok target) :
    ∃ token, standardManager.minted ProvisionedStore.handler mersenneStore
      (.ofSeed 0) request = some (.ok token) := by
  have held : (ProvisionedStore.handler mersenneStore .entry).1 =
      some (.ok mersenneEntry) := rfl
  have wide : 62 ≤ mersenneEntry.privateKey.size := by
    decide +kernel
  exact exists_minted rfl held Rsa.mersenneKey_isSound wide parsed

theorem parse_doorRequest : RequestTarget.parse doorRequest.url =
    .ok ⟨"[::1]:8443", "/door"⟩ := by
  decide +kernel

theorem accessToken_said_iff_door : -2 ^ 63 ≤ doorRequest.timestamp ∧
    doorRequest.timestamp < 2 ^ 63 ∧
    ∃ token parts,
      standardManager.minted ProvisionedStore.handler mersenneStore (.ofSeed 0)
        (doorRequest.bearing " ") = some (.ok token) ∧
      Jws.decompose RequestClaims token = .ok parts ∧
      parts.payload.accessToken = some " " ∧
      standardManager.minted ProvisionedStore.handler mersenneStore (.ofSeed 0)
        doorRequest.bare ≠ some (.ok token) := by
  have lower : -2 ^ 63 ≤ doorRequest.timestamp := by decide
  have upper : doorRequest.timestamp < 2 ^ 63 := by decide
  obtain ⟨token, made⟩ :=
    exists_minted_mersenne (doorRequest.bearing " ") parse_doorRequest
  obtain ⟨said, _, _, apart⟩ := accessToken_said_iff standardManager
    ProvisionedStore.handler mersenneStore (.ofSeed 0)
    lower upper " "
  refine ⟨lower, upper, token, ?_⟩
  rcases said token made with ⟨parts, read, same⟩ | ⟨other, _⟩
  · exact ⟨parts, made, read, same,
      apart (by decide) token made _ _ _ _ _ lower upper⟩
  · exact absurd rfl other

/-- With an empty access token the token of a request says none, and it is the
token of the request without one. -/
theorem accessToken_lost_empty : ∃ token parts,
    standardManager.minted ProvisionedStore.handler mersenneStore (.ofSeed 0)
      (doorRequest.bearing "") = some (.ok token) ∧
    standardManager.minted ProvisionedStore.handler mersenneStore (.ofSeed 0)
      doorRequest.bare = some (.ok token) ∧
    Jws.decompose RequestClaims token = .ok parts ∧
    parts.payload.accessToken = none := by
  obtain ⟨token, made⟩ :=
    exists_minted_mersenne (doorRequest.bearing "") parse_doorRequest
  have yields : standardManager.Yields token
      (nonEmpty (doorRequest.bearing "").accessToken) :=
    yields_of_minted (by decide) (by decide) made
  rcases yields with ⟨parts, read, same⟩ | ⟨other, _⟩
  · exact ⟨token, parts, made, minted_bearing_empty.symm.trans made, read, same⟩
  · exact absurd rfl other

end Manager

end BoundKey
