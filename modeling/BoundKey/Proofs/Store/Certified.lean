import BoundKey.Proofs.Certificate.SelfSigned
import BoundKey.Proofs.Config

set_option autoImplicit false

/-!
The certificate of an entry certifies the key of this entry. A generation makes
both at once and puts them into the slot together, and nothing else puts
anything there; so they belong together in every entry that is ever seen,
whatever calls come in between and in whatever order the store takes them.
-/

namespace BoundKey

/-- An entry with its own certificate: one certificate, which attests the
entry's public key, the public half of its private key, to the name and for the
validity of the parameters. -/
structure KeyEntry.IsCertified (entry : KeyEntry)
    (parameters : GenerationParameters) (now : Instant) : Prop where
  half : entry.publicKey = ⟨entry.privateKey.p * entry.privateKey.q,
    entry.privateKey.publicExponent⟩
  inverse : entry.publicKey.exponent * entry.privateKey.privateExponent ≡ 1
    [MOD Nat.lcm (entry.privateKey.p - 1) (entry.privateKey.q - 1)]
  chain : ∃ certificate body name, entry.certificates = [certificate] ∧
    certificate.Attests body ∧
    DistinguishedName.ofText parameters.commonName = .ok name ∧
    body.IsSelfIssued entry.publicKey name now parameters.validity

namespace SoftwareStore

structure Request where
  supply : Supply
  call : StoreCall

def Request.answer (keyAlias : String) (slot : Option KeyEntry)
    (request : Request) : Option request.call.Answer :=
  (handler keyAlias request.supply slot request.call).1

def Request.after (keyAlias : String) (slot : Option KeyEntry)
    (request : Request) : Option KeyEntry :=
  (handler keyAlias request.supply slot request.call).2.1

def slotAfter (keyAlias : String) (requests : List Request) : Option KeyEntry :=
  requests.foldl (Request.after keyAlias) none

/-- A request is a generation that has made an entry, together with its own
certificate. -/
def Request.Issues (request : Request) (entry : KeyEntry) : Prop :=
  ∃ parameters, request.call = .generate parameters ∧
    Makes request.supply parameters entry ∧
    entry.IsCertified parameters request.supply.now

end SoftwareStore

def StoreCall.shown : (call : StoreCall) → call.Answer → Option KeyEntry
  | generate _, answer => answer.toOption
  | entry, answer => answer.toOption
  | isPresent, _ | hasThumbprint _, _ | creationDate, _ | certificates, _
  | clear, _ => none

def StoreCall.chain : (call : StoreCall) → call.Answer → Option (List Certificate)
  | certificates, answer => answer.toOption
  | isPresent, _ | hasThumbprint _, _ | generate _, _ | entry, _
  | creationDate, _ | clear, _ => none

namespace SoftwareStore

/-! ### One generation -/

variable {supply : Supply} {parameters : GenerationParameters} {entry : KeyEntry}

/-- A generation makes a key and its certificate at once. The key is usable and
not too large to be read, so what the certificate says can be read again. -/
theorem isCertified_of_freshEntry
    (made : freshEntry supply parameters = some (.ok entry)) :
    entry.IsCertified parameters supply.now := by
  obtain ⟨least, most, generated, certificate, signed, whole⟩ :=
    freshEntry_eq_ok_iff.1 made
  have enough : 4 ≤ parameters.keySize := Nat.le_trans (by decide) least
  obtain ⟨-, usable, -, inverse⟩ :=
    Rsa.PrivateKey.usable_of_generate enough generated
  have sized : bitLength entry.publicKey.modulus ≤ Rsa.maxModulusBits := by
    rw [← Rsa.PrivateKey.bitLength_of_generate enough generated] at most
    exact most
  have built := Rsa.PublicKey.ofParts_eq_ok_iff.2 ⟨rfl, sized, usable⟩
  obtain ⟨body, name, named, attests, issued⟩ :=
    Certificate.attests_of_selfSigned built signed
  exact ⟨rfl, inverse, certificate, body, name,
    congrArg KeyEntry.certificates whole, attests, named, issued⟩

/-! ### One request -/

variable {keyAlias : String} {slot : Option KeyEntry} {request : Request}

theorem Request.generate_eq (keyAlias : String) (slot : Option KeyEntry)
    (supply : Supply) (parameters : GenerationParameters) :
    (Request.mk supply (.generate parameters)).answer keyAlias slot =
      freshEntry supply parameters ∧
    (Request.mk supply (.generate parameters)).after keyAlias slot =
      match freshEntry supply parameters with
      | some (.ok entry) => some entry
      | _ => slot := by
  rw [answer, after, handler]
  cases freshEntry supply parameters with
  | none => exact ⟨rfl, rfl⟩
  | some result =>
      cases result with
      | error fault => exact ⟨rfl, rfl⟩
      | ok entry => exact ⟨rfl, rfl⟩

theorem Request.issues_of_freshEntry
    (made : freshEntry supply parameters = some (.ok entry)) :
    (Request.mk supply (.generate parameters)).Issues entry :=
  ⟨parameters, rfl, makes_of_freshEntry made, isCertified_of_freshEntry made⟩

/-- An entry that stands after a request stood there before, or the request has
issued it. -/
theorem Request.of_after (stands : request.after keyAlias slot = some entry) :
    slot = some entry ∨ request.Issues entry := by
  obtain ⟨supply, call⟩ := request
  cases call with
  | generate parameters =>
      rw [(generate_eq keyAlias slot supply parameters).2] at stands
      split at stands
      · next fresh =>
          cases stands
          exact .inr (issues_of_freshEntry fresh)
      · exact .inl stands
  | entry =>
      cases slot with
      | none => cases stands
      | some standing => exact .inl stands
  | clear => cases stands
  | isPresent => exact .inl stands
  | hasThumbprint thumbprint => exact .inl stands
  | creationDate => exact .inl stands
  | certificates => exact .inl stands

theorem Request.of_shown {answer : request.call.Answer}
    (answered : request.answer keyAlias slot = some answer)
    (shown : request.call.shown answer = some entry) :
    request.call = .entry ∧ slot = some entry ∨ request.Issues entry := by
  obtain ⟨supply, call⟩ := request
  cases call with
  | generate parameters =>
      cases answer with
      | error fault => cases shown
      | ok made =>
          cases shown
          exact .inr (issues_of_freshEntry
            ((generate_eq keyAlias slot supply parameters).1.symm.trans answered))
  | entry =>
      cases slot with
      | none =>
          cases answered
          cases shown
      | some standing =>
          cases answered
          cases shown
          exact .inl ⟨rfl, rfl⟩
  | _ => cases shown

theorem Request.of_chain {answer : request.call.Answer} {chain : List Certificate}
    (answered : request.answer keyAlias slot = some answer)
    (shown : request.call.chain answer = some chain) :
    chain = (slot.map (·.certificates)).getD [] := by
  obtain ⟨supply, call⟩ := request
  cases call with
  | certificates =>
      cases Option.some.inj answered
      exact (Option.some.inj shown).symm
  | _ => cases shown

/-! ### Many requests -/

theorem slotAfter_concat (keyAlias : String) (requests : List Request)
    (request : Request) : slotAfter keyAlias (requests ++ [request]) =
      request.after keyAlias (slotAfter keyAlias requests) := by
  rw [slotAfter, List.foldl_append]
  rfl

theorem issued_of_slotAfter {requests : List Request}
    (stands : slotAfter keyAlias requests = some entry) :
    ∃ made ∈ requests, made.Issues entry := by
  induction requests using List.reverseRecOn with
  | nil => cases stands
  | append_singleton earlier last ih =>
      rw [slotAfter_concat] at stands
      rcases Request.of_after stands with before | issues
      · obtain ⟨made, member, issues⟩ := ih before
        exact ⟨made, List.mem_append_left [last] member, issues⟩
      · exact ⟨last, List.mem_concat_self, issues⟩

/-- Whatever requests a store has taken, the entry in its slot was issued by one
of the generations among them, for its parameters, with a certificate that
attests the key of the entry and no other. An entry that a further request shows
is this one, or is issued by that request in the same way; a chain that it shows
apart from an entry is the chain of the entry in the slot, and empty if there is
none. What is configured as a validity is a number of whole days. -/
theorem certificate_certifies_key (keyAlias : String) (requests : List Request)
    (request : Request) :
    (∀ entry, slotAfter keyAlias requests = some entry →
      ∃ made ∈ requests, made.Issues entry) ∧
    (∀ answer entry,
      request.answer keyAlias (slotAfter keyAlias requests) = some answer →
      request.call.shown answer = some entry →
        request.call = .entry ∧ slotAfter keyAlias requests = some entry ∨
          request.Issues entry) ∧
    (∀ answer chain,
      request.answer keyAlias (slotAfter keyAlias requests) = some answer →
      request.call.chain answer = some chain →
        chain = ((slotAfter keyAlias requests).map (·.certificates)).getD []) ∧
    ∀ config parameters, Config.generationParameters config = some parameters →
      parameters.commonName = config.commonName ∧
        parameters.validity = config.validityDays * 86400 := by
  refine ⟨fun _ => issued_of_slotAfter, fun _ _ => Request.of_shown,
    fun _ _ => Request.of_chain, ?_⟩
  intro config parameters configured
  obtain ⟨-, rfl⟩ := Config.generationParameters_eq_some_iff.1 configured
  exact ⟨rfl, rfl⟩

theorem freshEntry_primeTape_small : ∃ entry certificate,
    freshEntry ⟨Rsa.primeTape, ⟨0⟩⟩ ⟨2048, "CN=device", 3600⟩ = some (.ok entry) ∧
    entry.certificates = [certificate] ∧
    certificate.der.length ≤ Der.maxLength := by
  obtain ⟨entry, made⟩ := freshEntry_primeTape
  obtain ⟨-, -, generated, certificate, signed, whole⟩ :=
    freshEntry_eq_ok_iff.1 made
  refine ⟨entry, certificate, made, congrArg KeyEntry.certificates whole, ?_⟩
  have measured :
      (Rsa.PrivateKey.ofPrimes (2 ^ 1024 - 105) (2 ^ 1024 - 179)
        Rsa.PrivateKey.usualExponent).toOption.map
      (fun key => (Certificate.selfSigned key "CN=device" 3600 ⟨0⟩).toOption.map
        (fun certificate => decide (certificate.der.length ≤ Der.maxLength))) =
        some (some true) := by
    decide +kernel
  rw [← Rsa.generate_primeTape, generated] at measured
  have sized :
      (Certificate.selfSigned entry.privateKey "CN=device" 3600 ⟨0⟩).toOption.map
      (fun certificate => decide (certificate.der.length ≤ Der.maxLength)) =
      some true := Option.some.inj measured
  rw [signed] at sized
  exact of_decide_eq_true (Option.some.inj sized)

/-- The case of a key that is generated, removed and generated anew by the same
tape: its certificate is read, names its key and was signed by it. -/
theorem certificate_certifies_key_renewed :
    ∃ (supply : Supply) (entry : KeyEntry) (certificate : Certificate)
    (body : Certificate.Body),
    slotAfter "device" [⟨supply, .generate ⟨2048, "CN=device", 3600⟩⟩,
      ⟨supply, .clear⟩, ⟨supply, .generate ⟨2048, "CN=device", 3600⟩⟩] =
      some entry ∧
    entry.certificates = [certificate] ∧ certificate.body? = some body ∧
      body.key = entry.publicKey ∧
    certificate.isSignedBy entry.publicKey = true ∧
    (body.notAfter.seconds : Int) = body.notBefore.seconds + 3600 := by
  obtain ⟨entry, certificate, made, chain, small⟩ := freshEntry_primeTape_small
  -- From here on the supply has a name only, so that no step runs the
  -- generation again.
  generalize (⟨Rsa.primeTape, ⟨0⟩⟩ : Supply) = supply at made
  have stands : slotAfter "device"
      [⟨supply, .generate ⟨2048, "CN=device", 3600⟩⟩, ⟨supply, .clear⟩,
      ⟨supply, .generate ⟨2048, "CN=device", 3600⟩⟩] = some entry := by
    change slotAfter "device" ([⟨supply, .generate ⟨2048, "CN=device", 3600⟩⟩,
      ⟨supply, .clear⟩] ++ [_]) = _
    rw [slotAfter_concat, (Request.generate_eq _ _ _ _).2, made]
  obtain ⟨request, member, parameters, called, -, certified⟩ :=
    (certificate_certifies_key "device" _ ⟨supply, .entry⟩).1 entry stands
  obtain ⟨other, body, name, same, attests, -, issued⟩ := certified.chain
  cases chain.symm.trans same
  have signed := attests.signed small
  have ends := issued.notAfter
  have lasts : parameters.validity = 3600 := by
    simp only [List.mem_cons, List.not_mem_nil, or_false] at member
    rcases member with rfl | rfl | rfl
    · cases called
      rfl
    · cases called
    · cases called
      rfl
  rw [issued.key] at signed
  rw [lasts] at ends
  exact ⟨supply, entry, certificate, body, stands, chain, attests.read small,
    issued.key, signed, ends⟩

end SoftwareStore

end BoundKey
