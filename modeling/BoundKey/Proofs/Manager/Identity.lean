import BoundKey.Proofs.Json.Plain
import BoundKey.Proofs.Manager.Slot

set_option autoImplicit false

/-!
The identifier of a key. Whatever function a provider hashes texts with, the
identifier is its value at the canonical text of the public key, and it is the
same wherever it is shown: it is what a generation and a later look answer, and
it is read back from every token, where it stands twice, and from the
confirmation.
-/

namespace BoundKey

/-- A provider that hashes texts with some function and makes signatures that
are not empty with a key. -/
structure CryptoProvider.Identifies (provider : CryptoProvider)
    (digest : Bytes → String) (key : Rsa.PrivateKey) :
    Prop where
  hashes : ∃ hasher, provider.hasher "sha-256" = .ok hasher ∧
    ∀ bytes, hasher.hashText bytes = .ok (digest bytes)
  signs : ∃ signer, provider.signer "SHA256withRSA" = .ok signer ∧
    ∀ tape message, ∃ signature, signer.sign tape message key = .ok signature ∧
      signature ≠ []

def Rsa.PublicKey.identifier (key : Rsa.PublicKey) (digest : Bytes → String) :
    String :=
  digest (Utf8.encode (Jwk.ofPublicKey key).canonicalText)

namespace Manager

variable {σ : Type} {manager : Manager} {digest : Bytes → String}
  {entry : KeyEntry}

structure GoesBy (manager : Manager)
    (handler : Program.Handler StoreInterface σ) (state : σ)
    (identifier : String) : Prop where
  looked : (Program.run handler state manager.thumbprint.run).1 =
    some (.ok identifier)
  /-- Every token names the key twice, in its header and among its claims. -/
  named : ∀ (tape : Tape) (request : Request) (token : String), -2 ^ 63 ≤
    request.timestamp →
    request.timestamp < 2 ^ 63 →
    (Program.run handler state (manager.mint tape request).run).1 =
      some (.ok token) → ∃ parts, Jws.decompose RequestClaims token = .ok parts ∧
      parts.header.keyId = some identifier ∧
      parts.payload.confirmation.key.keyId = some identifier
  minted : ∀ (tape : Tape) (request : Request) (target : RequestTarget),
    RequestTarget.parse request.url = .ok target →
    ∃ token, (Program.run handler state (manager.mint tape request).run).1 =
      some (.ok token)
  confirmed :
    ∃ bytes, (Program.run handler state manager.requestConfirmation.run).1 =
        some (.ok (Base64.encode .url bytes)) ∧
      Json.decode? bytes = some (Json.Value.object [("kid", .string identifier)])

theorem thumbprintOf_eq
    (identifies : manager.provider.Identifies digest entry.privateKey) :
    manager.thumbprintOf entry = .ok (entry.publicKey.identifier digest) := by
  obtain ⟨hasher, found, hashes⟩ := identifies.hashes
  have hashed : manager.hasher = .ok hasher := mapError_eq_ok_iff.2 found
  rw [thumbprintOf, hashed]
  change ((hasher.hashText _).mapError _).mapError _ = _
  rw [hashes]
  rfl

theorem tokenOf_eq
    (identifies : manager.provider.Identifies digest entry.privateKey)
    (tape : Tape) (request : Request)
    (target : RequestTarget) :
    ∃ signature, signature ≠ [] ∧ manager.tokenOf tape request target entry =
      .ok (Jws.token (Request.header (entry.publicKey.identifier digest))
        (request.claims target entry.publicKey
          (entry.publicKey.identifier digest)) signature) := by
  obtain ⟨signer, found, signs⟩ := identifies.signs
  have registered : manager.signer .sha256 = .ok signer :=
    mapError_eq_ok_iff.2 found
  obtain ⟨signature, signed, present⟩ := signs tape
    (Utf8.encode (Jws.signingInput
      (Request.header (entry.publicKey.identifier digest))
      (request.claims target entry.publicKey
        (entry.publicKey.identifier digest))))
  exact ⟨signature, present,
    tokenOf_eq_ok_iff.2 ⟨_, signer, signature, thumbprintOf_eq identifies,
      registered, signed, rfl⟩⟩

/-- A token names its key twice, by what the header says and by what is said of
the key among the claims. -/
theorem decompose_tokenOf
    (identifies : manager.provider.Identifies digest entry.privateKey)
    {tape : Tape} {request : Request} {target : RequestTarget} {token : String}
    (lower : -2 ^ 63 ≤ request.timestamp)
    (upper : request.timestamp < 2 ^ 63)
    (made : manager.tokenOf tape request target entry = .ok token) :
    ∃ parts, Jws.decompose RequestClaims token = .ok parts ∧
      parts.header.keyId = some (entry.publicKey.identifier digest) ∧
      parts.payload.confirmation.key.keyId =
        some (entry.publicKey.identifier digest) := by
  obtain ⟨signature, present, signed⟩ := tokenOf_eq identifies tape request target
  have same := Except.ok.inj (made.symm.trans signed)
  rw [same]
  exact ⟨_, Jws.decompose_token _ (Request.claims_read lower upper target _ _)
    present, rfl, rfl⟩

theorem confirmationOf_eq
    (identifies : manager.provider.Identifies digest entry.privateKey) :
    manager.confirmationOf entry = .ok (Base64.encode .url
      (Utf8.encode (Json.Value.object
        [("kid", .string (entry.publicKey.identifier digest))]).render)) := by
  rw [confirmationOf, thumbprintOf_eq identifies]
  rfl

theorem confirmation_isPlain (identifier : String) :
    (Json.Value.object [("kid", .string identifier)]).IsPlain Json.maxDepth := by
  apply Json.Value.IsPlain.object (List.pairwise_singleton _ _)
  intro member listed
  rw [List.mem_singleton.1 listed]
  exact .string identifier

theorem goesBy_identifier
    (identifies : manager.provider.Identifies digest entry.privateKey)
    {handler : Program.Handler StoreInterface σ} {state : σ}
    (held : (handler state .entry).1 = some (.ok entry)) :
    manager.GoesBy handler state (entry.publicKey.identifier digest) where
  looked := by
    rw [manager.works_thumbprint.value, held]
    exact congrArg some (thumbprintOf_eq identifies)
  named := by
    intro tape request token lower upper answered
    rcases run_mint_eq_ok_iff.1 answered with ⟨target, other, _, found, made⟩
    cases held.symm.trans found
    exact decompose_tokenOf identifies lower upper made
  minted := by
    intro tape request target parsed
    obtain ⟨signature, _, made⟩ := tokenOf_eq identifies tape request target
    exact ⟨_, run_mint_eq_ok_iff.2 ⟨target, entry, parsed, held, made⟩⟩
  confirmed := by
    refine ⟨_, ?_, (confirmation_isPlain _).decode?_render⟩
    rw [manager.works_requestConfirmation.value, held]
    exact congrArg some (confirmationOf_eq identifies)

theorem run_generate_eq
    (identifies : manager.provider.Identifies digest entry.privateKey)
    {handler : Program.Handler StoreInterface σ} {state : σ}
    (made : (handler state (.generate manager.parameters)).1 = some (.ok entry)) :
    (Program.run handler state manager.generate.run).1 =
      some (.ok (entry.publicKey.identifier digest)) := by
  rw [(run_generate handler state manager).1, made]
  exact congrArg some (thumbprintOf_eq identifies)

/-- A key has one identifier, the digest of its canonical text. Over every
store, whatever shows an identifier of the entry shows this one, and so does a
generation for which the store made the entry. Over a store in memory the entry
comes from the last generation that made one, and this generation has answered
the identifier. -/
theorem one_identifier
    (identifies : manager.provider.Identifies digest entry.privateKey) :
    (∀ {σ : Type} (handler : Program.Handler StoreInterface σ) (state : σ),
      ((handler state .entry).1 = some (.ok entry) →
        manager.GoesBy handler state (entry.publicKey.identifier digest)) ∧
      ((handler state (.generate manager.parameters)).1 = some (.ok entry) →
        (Program.run handler state manager.generate.run).1 =
          some (.ok (entry.publicKey.identifier digest)))) ∧
    ∀ turns : List Turn, manager.slotAfter turns = some entry →
      (∀ supply, manager.GoesBy (SoftwareStore.handler manager.keyAlias supply)
        (manager.slotAfter turns) (entry.publicKey.identifier digest)) ∧
      ∃ earlier supply later, turns = earlier ++ ⟨.generate, supply⟩ :: later ∧
        (Turn.mk .generate supply).Installs manager entry ∧
        (∀ turn ∈ later, turn.Keeps manager) ∧
        (Turn.mk .generate supply).answer manager (manager.slotAfter earlier) =
          some (.ok (entry.publicKey.identifier digest)) := by
  refine ⟨fun handler state => ⟨goesBy_identifier identifies,
    run_generate_eq identifies⟩, ?_⟩
  intro turns stands
  constructor
  · intro supply
    rw [stands]
    exact goesBy_identifier identifies rfl
  · obtain ⟨earlier, ⟨operation, supply⟩, later, whole,
        ⟨generates, made⟩, keep⟩ :=
      (manager.slotAfter_eq_some_iff turns entry).1 stands
    cases generates
    refine ⟨earlier, supply, later, whole, ⟨rfl, made⟩, keep, ?_⟩
    rw [Turn.answer_eq, ManagerCall.seen, made]
    exact congrArg some (thumbprintOf_eq identifies)

def latinText (bytes : Bytes) : String :=
  String.ofList (bytes.map fun byte => Char.ofNat byte.toNat) ++ "\\\u0001\u2028"

/-- A manager that hashes nothing and puts the message itself into the
signature. -/
def echoManager : Manager :=
  ⟨"device", ⟨[("sha-256", ⟨.ok, fun bytes => .ok (latinText bytes)⟩)],
    [("SHA256withRSA", ⟨fun _ message _ => .ok (0 :: message),
      fun _ _ _ => .ok ()⟩)], []⟩, ⟨2048, "CN=device", 3600⟩⟩

/-- The case of an identifier that is the canonical text itself, with quotes, a
backslash and a control character. -/
theorem one_identifier_echo :
    ∃ (supply : SoftwareStore.Supply) (entry : KeyEntry),
    echoManager.provider.Identifies latinText entry.privateKey ∧
    echoManager.slotAfter [⟨.generate, supply⟩] = some entry ∧
    (Program.run (SoftwareStore.handler echoManager.keyAlias supply) none
      echoManager.generate.run).1 =
      some (.ok (entry.publicKey.identifier latinText)) ∧
    RequestTarget.parse doorRequest.url = .ok ⟨"[::1]:8443", "/door"⟩ ∧
    ∃ token parts,
      (Program.run (SoftwareStore.handler echoManager.keyAlias supply)
        (echoManager.slotAfter [⟨.generate, supply⟩])
        (echoManager.mint (.ofSeed 0) doorRequest).run).1 = some (.ok token) ∧
      Jws.decompose RequestClaims token = .ok parts ∧
      parts.header.keyId = some (entry.publicKey.identifier latinText) ∧
      parts.payload.confirmation.key.keyId =
        some (entry.publicKey.identifier latinText) := by
  obtain ⟨entry, made⟩ := SoftwareStore.freshEntry_primeTape
  -- From here on the supply has a name only, so that no step runs the
  -- generation again.
  generalize (⟨Rsa.primeTape, ⟨0⟩⟩ : SoftwareStore.Supply) = supply at made
  have identifies : echoManager.provider.Identifies latinText entry.privateKey :=
    ⟨⟨_, rfl, fun bytes => rfl⟩, ⟨_, rfl, fun tape message =>
      ⟨0 :: message, rfl, List.cons_ne_nil 0 message⟩⟩⟩
  have parsed : RequestTarget.parse doorRequest.url =
      .ok ⟨"[::1]:8443", "/door"⟩ := by
    decide +kernel
  have stands : echoManager.slotAfter [⟨.generate, supply⟩] = some entry :=
    (echoManager.slotAfter_eq_some_iff _ entry).2 ⟨[], _, [], rfl,
      ⟨rfl, made⟩, nofun⟩
  have generated :
      (SoftwareStore.handler echoManager.keyAlias supply none
        (.generate echoManager.parameters)).1 =
      some (.ok entry) := by
    change SoftwareStore.freshEntry supply echoManager.parameters =
      some (.ok entry) at made
    rw [SoftwareStore.handler, made]
  obtain ⟨overStores, overTurns⟩ := one_identifier identifies
  have answered :=
    (overStores (SoftwareStore.handler echoManager.keyAlias supply) none).2
      generated
  have goesBy := (overTurns [⟨.generate, supply⟩] stands).1 supply
  obtain ⟨token, minted⟩ := goesBy.minted (.ofSeed 0) doorRequest _ parsed
  obtain ⟨parts, read, header, claims⟩ :=
    goesBy.named (.ofSeed 0) doorRequest token (by decide) (by decide) minted
  exact ⟨supply, entry, identifies, stands, answered, parsed, token, parts,
    minted, read, header, claims⟩

end Manager

end BoundKey
