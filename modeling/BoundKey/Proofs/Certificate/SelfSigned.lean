import BoundKey.Certificate.SelfSigned
import BoundKey.Proofs.Certificate.Body
import BoundKey.Proofs.Rsa.Pkcs1

set_option autoImplicit false

/-!
The certificate that a key signs for itself. What its body says is settled by
the key, the name, the time and the validity; the signature was checked when it
was made, so the key in the body accepts it.
-/

namespace BoundKey.Certificate

open Der (Element)

/-! ### The end of the validity -/

variable {now finish : Instant} {validity : Int}

theorem ending_eq_ok_iff : ending now validity = .ok finish ↔
    0 ≤ validity ∧ (finish.seconds : Int) = now.seconds + validity ∧
      finish.seconds ≤ Instant.maxSeconds := by
  have clock : Instant.maxSeconds ≤ maxClock := by decide
  rw [ending]
  by_cases negative : validity < 0
  · rw [if_pos negative]
    refine iff_of_false nofun ?_
    rintro ⟨least, -⟩
    omega
  · rw [if_neg negative]
    dsimp only
    constructor
    · intro ended
      split at ended
      · cases ended
      · split at ended
        · cases ended
        · next most =>
            cases ended
            dsimp only
            omega
    · rintro ⟨least, sum, most⟩
      have same : now.seconds + validity.toNat = finish.seconds := by omega
      rw [same, if_neg (by omega), if_neg (by omega)]

/-- A validity that is not negative has no end exactly if the end would be
behind all that a clock can show. -/
theorem ending_beyondClock_iff :
    ending now validity = .error .beyondClock ↔
      0 ≤ validity ∧ (maxClock : Int) < now.seconds + validity := by
  rw [ending]
  by_cases negative : validity < 0
  · rw [if_pos negative]
    constructor
    · intro same
      cases same
    · intro later
      exact absurd later.1 (Int.not_le.2 negative)
  · have sum : ((now.seconds + validity.toNat : Nat) : Int) =
        now.seconds + validity := by omega
    rw [if_neg negative, ← sum]
    dsimp only
    by_cases beyond : maxClock < now.seconds + validity.toNat
    · rw [if_pos beyond]
      exact iff_of_true rfl ⟨Int.not_lt.1 negative, Int.ofNat_lt.2 beyond⟩
    · rw [if_neg beyond]
      constructor
      · intro same
        split at same
        · cases same
        · cases same
      · intro later
        exact absurd (Int.ofNat_lt.1 later.2) beyond

/-! ### Making the certificate -/

variable {key : Rsa.PrivateKey} {subject : String} {certificate : Certificate}

theorem selfSigned_eq_ok_iff : selfSigned key subject validity now =
    .ok certificate ↔
    ∃ finish name signature, ending now validity = .ok finish ∧
      DistinguishedName.ofText subject = .ok name ∧
      Rsa.Pkcs1.sign key (Rsa.Pkcs1.digestInfo .sha256
        (selfIssued key.publicKey name now finish).toElement.encode) =
        .ok signature ∧
      certificate = ofSigned
        (selfIssued key.publicKey name now finish).toElement signature := by
  rw [selfSigned]
  constructor
  · intro made
    obtain ⟨finish, ended, naming⟩ := bind_eq_ok_iff.1 made
    obtain ⟨name, named, signing⟩ := bind_eq_ok_iff.1 naming
    obtain ⟨signature, signed, whole⟩ := bind_eq_ok_iff.1 signing
    exact ⟨finish, name, signature, ended, mapError_eq_ok_iff.1 named,
      mapError_eq_ok_iff.1 signed, (Except.ok.inj whole).symm⟩
  · rintro ⟨finish, name, signature, ended, named, signed, whole⟩
    refine bind_eq_ok_iff.2 ⟨finish, ended,
      bind_eq_ok_iff.2 ⟨name, mapError_eq_ok_iff.2 named, ?_⟩⟩
    exact bind_eq_ok_iff.2 ⟨signature, mapError_eq_ok_iff.2 signed,
      congrArg Except.ok whole.symm⟩

/-- The end of the validity is looked at first, and no later fault is taken for
this one. -/
theorem selfSigned_beyondClock_iff :
    selfSigned key subject validity now = .error .beyondClock ↔
    0 ≤ validity ∧ (maxClock : Int) < now.seconds + validity := by
  rw [← ending_beyondClock_iff, selfSigned]
  constructor
  · intro failed
    rcases bind_eq_error_iff.1 failed with ended | ⟨finish, -, naming⟩
    · exact ended
    · rcases bind_eq_error_iff.1 naming with unnamed | ⟨name, -, signing⟩
      · obtain ⟨cause, -, same⟩ := mapError_eq_error_iff.1 unnamed
        cases same
      · rcases bind_eq_error_iff.1 signing with unsigned | ⟨signature, -, same⟩
        · obtain ⟨cause, -, same⟩ := mapError_eq_error_iff.1 unsigned
          cases same
        · cases same
  · exact fun ended => bind_eq_error_iff.2 (.inl ended)

/-! ### What the certificate says -/

structure Body.IsSelfIssued (body : Body) (key : Rsa.PublicKey)
    (name : DistinguishedName) (start : Instant)
    (validity : Int) : Prop where
  key : body.key = key
  subject : body.subject = name
  issuer : body.issuer = name
  serial : body.serial = 1
  notBefore : body.notBefore = start
  notAfter : (body.notAfter.seconds : Int) = body.notBefore.seconds + validity

/-- A certificate is put together of a body and of a signature of it that the
key in the body accepts. If it is not too long to be read, this is also what is
read. -/
structure Attests (certificate : Certificate) (body : Body) : Prop where
  composed : ∃ signature, certificate = ofSigned body.toElement signature ∧
    Rsa.Pkcs1.verify body.key (Rsa.Pkcs1.digestInfo .sha256
      body.toElement.encode) signature = true
  read : certificate.der.length ≤ Der.maxLength → certificate.body? = some body
  signed : certificate.der.length ≤ Der.maxLength →
    certificate.isSignedBy body.key = true

theorem selfIssued_isSelfIssued {key : Rsa.PublicKey} {name : DistinguishedName}
    (ended : ending now validity = .ok finish) :
    (selfIssued key name now finish).IsSelfIssued key name now validity where
  key := rfl
  subject := rfl
  issuer := rfl
  serial := rfl
  notBefore := rfl
  notAfter := (ending_eq_ok_iff.1 ended).2.1

theorem selfIssued_isWritable {key : Rsa.PublicKey} {name : DistinguishedName}
    (built : Rsa.PublicKey.ofParts key.modulus key.exponent = .ok key)
    (named : DistinguishedName.ofText subject = .ok name)
    (ended : ending now validity = .ok finish) :
    (selfIssued key name now finish).IsWritable where
  issuer := DistinguishedName.isWritable_of_ofText named
  subject := DistinguishedName.isWritable_of_ofText named
  notBefore := by
    obtain ⟨least, sum, most⟩ := ending_eq_ok_iff.1 ended
    change now.seconds ≤ Instant.maxSeconds
    omega
  notAfter := (ending_eq_ok_iff.1 ended).2.2
  key := built
  extensions := by
    have kinds : ∀ number ∈ [14, 19, 15], (extensionKind number).IsPacked := by
      decide
    simp only [List.forall_mem_cons] at kinds
    simp only [selfIssued, List.forall_mem_cons]
    exact ⟨kinds.1, kinds.2.1, kinds.2.2.1, nofun⟩

/-- A usable key that has signed a certificate for itself is the key that the
certificate names. -/
theorem attests_of_selfSigned
    (built : Rsa.PublicKey.ofParts key.publicKey.modulus
      key.publicKey.exponent = .ok key.publicKey)
    (made : selfSigned key subject validity now = .ok certificate) :
    ∃ body name, DistinguishedName.ofText subject = .ok name ∧
      certificate.Attests body ∧
      body.IsSelfIssued key.publicKey name now validity := by
  obtain ⟨finish, name, signature, ended, named, signed, rfl⟩ :=
    selfSigned_eq_ok_iff.1 made
  have accepted := Rsa.Pkcs1.verify_of_sign signed
  refine ⟨selfIssued key.publicKey name now finish, name, named, ?_,
    selfIssued_isSelfIssued ended⟩
  refine ⟨⟨signature, rfl, accepted⟩,
    body?_ofSigned (selfIssued_isWritable built named ended), ?_⟩
  intro small
  rw [isSignedBy_ofSigned _ small]
  exact accepted

end BoundKey.Certificate
