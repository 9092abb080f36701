import BoundKey.Crypto.Constant
import BoundKey.Proofs.Manager.Slot

set_option autoImplicit false

/-!
A key recognized by its thumbprint. A store in memory compares a text with the
SHA-256 thumbprint of its key, while the manager shows the thumbprint that the
hasher of its provider makes. The two agree exactly if there is no key or this
hasher makes the SHA-256 thumbprint of the key; with another hasher, or with
none, they do not.
-/

namespace BoundKey

theorem KeyEntry.hasThumbprint_iff {entry : KeyEntry} {text : String} :
    entry.hasThumbprint (Utf8.encode text) = true ↔
      Manager.thumbprintText entry.publicKey = text := by
  rw [KeyEntry.hasThumbprint, Manager.thumbprint_eq]
  exact beq_iff_eq.trans Utf8.encode_inj

theorem Hasher.constant_hashText {digest : Bytes} {text : String}
    (read : Utf8.decode? digest = some text)
    (bytes : Bytes) :
    (Hasher.constant (.ok digest)).hashText bytes = .ok text := by
  simp only [Hasher.constant, bind, Except.bind, read]

namespace Manager

variable {manager : Manager} {slot : Option KeyEntry}

def Hashes (manager : Manager) (key : Rsa.PublicKey) (text : String) : Prop :=
  ∃ hasher, manager.provider.hasher "sha-256" = .ok hasher ∧
    hasher.hashText (Utf8.encode (Jwk.ofPublicKey key).canonicalText) = .ok text

/-- Exactly the text that is shown as the thumbprint is recognized. -/
def Recognizes (manager : Manager) (slot : Option KeyEntry) : Prop :=
  ∀ (supply : SoftwareStore.Supply) (text : String),
    (Turn.mk (.isPresentWithThumbprint text) supply).answer manager
      slot = some true ↔
      (Turn.mk .thumbprint supply).answer manager slot = some (.ok text)

theorem thumbprintOf_eq_ok_iff {entry : KeyEntry} {text : String} :
    manager.thumbprintOf entry = .ok text ↔
      manager.Hashes entry.publicKey text := by
  rw [thumbprintOf, bind_eq_ok_iff]
  constructor
  · rintro ⟨hasher, found, hashed⟩
    exact ⟨hasher, mapError_eq_ok_iff.1 found,
      mapError_eq_ok_iff.1 (mapError_eq_ok_iff.1 hashed)⟩
  · rintro ⟨hasher, found, hashed⟩
    exact ⟨hasher, mapError_eq_ok_iff.2 found,
      mapError_eq_ok_iff.2 (mapError_eq_ok_iff.2 hashed)⟩

/-! ### What each of the two answers -/

theorem recognized_iff (supply : SoftwareStore.Supply) (text : String) :
    (Turn.mk (.isPresentWithThumbprint text) supply).answer manager
      slot = some true ↔
      ∃ entry, slot = some entry ∧ thumbprintText entry.publicKey = text := by
  rw [Turn.answer_eq, ManagerCall.seen, Option.some_inj]
  cases slot with
  | none =>
      constructor
      · intro recognized
        cases recognized
      · rintro ⟨_, held, _⟩
        cases held
  | some entry =>
      rw [Option.any_some, KeyEntry.hasThumbprint_iff]
      constructor
      · exact fun same => ⟨entry, rfl, same⟩
      · rintro ⟨other, held, same⟩
        cases held
        exact same

theorem shown_iff (supply : SoftwareStore.Supply) (text : String) :
    (Turn.mk .thumbprint supply).answer manager slot = some (.ok text) ↔
      ∃ entry, slot = some entry ∧ manager.Hashes entry.publicKey text := by
  rw [Turn.answer_eq, ManagerCall.seen, Option.some_inj]
  cases slot with
  | none =>
      constructor
      · intro shown
        cases shown
      · rintro ⟨_, held, _⟩
        cases held
  | some entry =>
      change manager.thumbprintOf entry = .ok text ↔ _
      rw [thumbprintOf_eq_ok_iff]
      constructor
      · exact fun hashes => ⟨entry, rfl, hashes⟩
      · rintro ⟨other, held, hashes⟩
        cases held
        exact hashes

/-! ### Agreement -/

theorem Hashes.unique {key : Rsa.PublicKey} {text other : String}
    (hashes : manager.Hashes key text)
    (again : manager.Hashes key other) : text = other := by
  obtain ⟨hasher, found, hashed⟩ := hashes
  obtain ⟨same, foundAgain, hashedAgain⟩ := again
  cases found.symm.trans foundAgain
  exact Except.ok.inj (hashed.symm.trans hashedAgain)

theorem recognizes_of_hashes (hashes : ∀ entry, slot = some entry →
    manager.Hashes entry.publicKey (thumbprintText entry.publicKey)) :
    manager.Recognizes slot := by
  intro supply text
  rw [recognized_iff, shown_iff]
  constructor
  · rintro ⟨entry, held, rfl⟩
    exact ⟨entry, held, hashes entry held⟩
  · rintro ⟨entry, held, shown⟩
    exact ⟨entry, held, (hashes entry held).unique shown⟩

theorem Recognizes.hashes (recognizes : manager.Recognizes slot)
    {entry : KeyEntry} (held : slot = some entry) :
    manager.Hashes entry.publicKey (thumbprintText entry.publicKey) := by
  -- Neither answer depends on what the surroundings supply, so any supply will
  -- do.
  have agrees := recognizes ⟨.ofSeed 0, ⟨0⟩⟩ (thumbprintText entry.publicKey)
  obtain ⟨other, same, shown⟩ :=
    (shown_iff _ _).1 (agrees.1 ((recognized_iff _ _).2 ⟨entry, held, rfl⟩))
  cases held.symm.trans same
  exact shown

/-- A provider with the SHA-256 hasher, as the standard one is, has its keys
recognized. -/
theorem recognizes_of_sha256
    (registered : manager.provider.hasher "sha-256" = .ok .sha256) :
    manager.Recognizes slot :=
  recognizes_of_hashes fun _ _ => ⟨.sha256, registered, rfl⟩

/-- Over every slot, whatever turns have led to it: the SHA-256 thumbprint of
the key in the slot is recognized and no other text, what is shown as the
thumbprint is what the hasher of the provider makes of this key, and the two
agree on every text exactly if there is no key or this hasher makes the SHA-256
thumbprint of it. -/
theorem recognizes_iff (manager : Manager) (slot : Option KeyEntry) :
    (∀ supply text, (Turn.mk (.isPresentWithThumbprint text) supply).answer
      manager slot = some true ↔
      ∃ entry, slot = some entry ∧ thumbprintText entry.publicKey = text) ∧
    (∀ supply text, (Turn.mk .thumbprint supply).answer manager slot =
      some (.ok text) ↔
      ∃ entry, slot = some entry ∧ manager.Hashes entry.publicKey text) ∧
    (manager.Recognizes slot ↔
      ∀ entry, slot = some entry →
        manager.Hashes entry.publicKey (thumbprintText entry.publicKey)) :=
  ⟨recognized_iff, shown_iff, fun recognizes _ => recognizes.hashes,
    recognizes_of_hashes⟩

/-! ### A key that is not recognized -/

def markingManager : Manager :=
  ⟨"device", ⟨[("sha-256", .constant (.ok (Utf8.encode "!")))], [], []⟩,
    ⟨2048, "CN=device", 3600⟩⟩

/-- No SHA-256 thumbprint has a character that base 64 lacks. -/
theorem thumbprintText_ne_mark (key : Rsa.PublicKey) :
    thumbprintText key ≠ "!" := by
  intro same
  have read : Base64.decode .url "!" =
      some (Digest.sha256.hash
        (Utf8.encode (Jwk.ofPublicKey key).canonicalText)) :=
    Base64.decode_eq_some_iff.2 same.symm
  cases read

/-- After one generation the manager shows a thumbprint, the one that the
generation answered, and does not recognize its key by it. -/
theorem not_recognizes_mark : ∃ supply : SoftwareStore.Supply,
    (Turn.mk .generate supply).answer markingManager none = some (.ok "!") ∧
    (Turn.mk .thumbprint supply).answer markingManager
      (markingManager.slotAfter [⟨.generate, supply⟩]) =
      some (.ok "!") ∧
    (Turn.mk (.isPresentWithThumbprint "!") supply).answer markingManager
      (markingManager.slotAfter [⟨.generate, supply⟩]) = some false ∧
    ¬ markingManager.Recognizes (markingManager.slotAfter
      [⟨.generate, supply⟩]) := by
  obtain ⟨entry, made⟩ := SoftwareStore.freshEntry_primeTape
  -- From here on the supply has a name only, so that no step runs the
  -- generation again.
  generalize (⟨Rsa.primeTape, ⟨0⟩⟩ : SoftwareStore.Supply) = supply at made
  have stands : markingManager.slotAfter [⟨.generate, supply⟩] = some entry :=
    (markingManager.slotAfter_eq_some_iff _ entry).2 ⟨[], _, [], rfl,
      ⟨rfl, made⟩, nofun⟩
  have hashes : markingManager.Hashes entry.publicKey "!" :=
    ⟨_, rfl, Hasher.constant_hashText (Utf8.decode?_encode "!") _⟩
  have answered : (Turn.mk .generate supply).answer markingManager none =
      some (.ok "!") := by
    change SoftwareStore.freshEntry supply markingManager.parameters =
      some (.ok entry) at made
    rw [Turn.answer_eq, ManagerCall.seen]
    dsimp only
    rw [made]
    exact congrArg some (thumbprintOf_eq_ok_iff.2 hashes)
  have shown : (Turn.mk .thumbprint supply).answer markingManager
      (markingManager.slotAfter [⟨.generate, supply⟩]) =
      some (.ok "!") := (shown_iff supply "!").2 ⟨entry, stands, hashes⟩
  have refused :
      (Turn.mk (.isPresentWithThumbprint "!") supply).answer markingManager
      (markingManager.slotAfter [⟨.generate, supply⟩]) = some false := by
    rw [Turn.answer_eq, ManagerCall.seen, stands, Option.any_some,
      Option.some_inj, Bool.eq_false_iff]
    exact fun recognized =>
      thumbprintText_ne_mark _ (KeyEntry.hasThumbprint_iff.1 recognized)
  refine ⟨supply, answered, shown, refused, ?_⟩
  intro recognizes
  have recognized := (recognizes supply "!").2 shown
  rw [refused] at recognized
  cases recognized

end Manager

end BoundKey
