import BoundKey.Proofs.Manager.Missing
import BoundKey.Proofs.Rsa.Generation

set_option autoImplicit false

/-!
A manager over a key store in memory, turn after turn, as a machine with one
slot. What stands in the slot is settled by the last turn that touched it: a
generation for which the store made an entry, or a removal. Whatever a manager
shows is a view of that slot, so all of it agrees.
-/

namespace BoundKey

/-- A turn of a run: an operation, and what the surroundings supply to the store
in the meantime. -/
structure Turn where
  operation : ManagerCall
  supply : SoftwareStore.Supply

namespace Turn

def answer (manager : Manager) (slot : Option KeyEntry) (turn : Turn) :
    Option turn.operation.Answer :=
  (Program.run (SoftwareStore.handler manager.keyAlias turn.supply) slot
    (turn.operation.program manager)).1

def after (manager : Manager) (slot : Option KeyEntry) (turn : Turn) :
    Option KeyEntry :=
  (Program.run (SoftwareStore.handler manager.keyAlias turn.supply) slot
    (turn.operation.program manager)).2.1

/-- The turn is a generation for which the store makes an entry, whether or not
the manager can then name it. -/
def Installs (manager : Manager) (turn : Turn) (entry : KeyEntry) : Prop :=
  turn.operation = .generate ∧
    SoftwareStore.freshEntry turn.supply manager.parameters = some (.ok entry)

/-- The turn is neither a removal nor a generation for which the store makes an
entry. -/
def Keeps (manager : Manager) (turn : Turn) : Prop :=
  turn.operation ≠ .clear ∧ ∀ entry, ¬ turn.Installs manager entry

variable {manager : Manager} {slot : Option KeyEntry} {turn : Turn}
  {entry : KeyEntry}

theorem answer_eq (manager : Manager) (slot : Option KeyEntry) (turn : Turn) :
    turn.answer manager slot = turn.operation.seen manager turn.supply slot :=
  (SoftwareStore.run_eq turn.supply slot manager turn.operation).1

theorem after_eq (manager : Manager) (slot : Option KeyEntry) (turn : Turn) :
    turn.after manager slot = turn.operation.leaves manager turn.supply slot :=
  (SoftwareStore.run_eq turn.supply slot manager turn.operation).2

/-! ### One turn -/

theorem after_of_installs (installs : turn.Installs manager entry) :
    turn.after manager slot = some entry := by
  obtain ⟨generates, made⟩ := installs
  rw [after_eq, generates, ManagerCall.leaves, made]

theorem after_of_clear (clears : turn.operation = .clear) :
    turn.after manager slot = none := by
  rw [after_eq, clears, ManagerCall.leaves]

theorem after_of_keeps (keeps : turn.Keeps manager) :
    turn.after manager slot = slot := by
  obtain ⟨notClear, notInstalled⟩ := keeps
  rw [after_eq]
  cases which : turn.operation with
  | clear => exact absurd which notClear
  | generate =>
      rw [ManagerCall.leaves]
      split
      · next entry made => exact absurd ⟨which, made⟩ (notInstalled entry)
      · rfl
  | _ => rfl

theorem kinds (manager : Manager) (turn : Turn) :
    (∃ entry, turn.Installs manager entry) ∨ turn.operation = .clear ∨
      turn.Keeps manager := by
  by_cases installs : ∃ entry, turn.Installs manager entry
  · exact .inl installs
  · by_cases clears : turn.operation = .clear
    · exact .inr (.inl clears)
    · exact .inr (.inr ⟨clears, not_exists.1 installs⟩)

end Turn

theorem SoftwareStore.freshEntry_eq_ok_iff
    {supply : Supply} {parameters : GenerationParameters} {entry : KeyEntry} :
    freshEntry supply parameters = some (.ok entry) ↔
      minKeySize ≤ parameters.keySize ∧ parameters.keySize ≤ maxKeySize ∧
      Rsa.PrivateKey.generate supply.tape parameters.keySize =
        .ok entry.privateKey ∧
      ∃ certificate, Certificate.selfSigned entry.privateKey
        parameters.commonName parameters.validity supply.now =
          .ok certificate ∧ entry = ⟨entry.privateKey, [certificate],
            supply.now.seconds, .software⟩ := by
  rw [freshEntry]
  constructor
  · intro made
    split at made
    · cases made
    · next sized =>
        obtain ⟨least, most⟩ := not_or.1 sized
        split at made
        · cases made
        · next key generated =>
            split at made
            · next fault _ =>
                obtain ⟨cause, _, other⟩ := Option.map_eq_some_iff.1 made
                cases other
            · next certificate certified =>
                cases made
                exact ⟨Nat.not_lt.1 least, Nat.not_lt.1 most, generated,
                  certificate, certified, rfl⟩
  · rintro ⟨least, most, generated, certificate, certified, whole⟩
    rw [if_neg (not_or.2 ⟨Nat.not_lt.2 least, Nat.not_lt.2 most⟩), generated]
    dsimp only
    rw [certified]
    exact congrArg (fun made : KeyEntry => some (Except.ok made)) whole.symm

theorem SoftwareStore.certificates_of_freshEntry
    {supply : Supply} {parameters : GenerationParameters}
    {entry : KeyEntry}
    (made : freshEntry supply parameters = some (.ok entry)) :
    entry.certificates.length = 1 := by
  obtain ⟨_, _, _, certificate, _, whole⟩ := freshEntry_eq_ok_iff.1 made
  rw [whole]
  rfl

namespace Manager

def slotAfter (manager : Manager) (turns : List Turn) : Option KeyEntry :=
  turns.foldl (Turn.after manager) none

/-! ### Many turns -/

variable {manager : Manager}

theorem slotAfter_concat (manager : Manager) (turns : List Turn) (turn : Turn) :
    manager.slotAfter (turns ++ [turn]) =
      turn.after manager (manager.slotAfter turns) := by
  rw [slotAfter, List.foldl_append]
  rfl

theorem slotAfter_append_of_keeps (turns : List Turn) {later : List Turn}
    (keep : ∀ turn ∈ later, turn.Keeps manager) :
    manager.slotAfter (turns ++ later) = manager.slotAfter turns := by
  induction later using List.reverseRecOn with
  | nil => rw [List.append_nil]
  | append_singleton later last ih =>
      rw [← List.append_assoc, slotAfter_concat,
        Turn.after_of_keeps (keep last List.mem_concat_self)]
      exact ih fun turn member => keep turn (List.mem_append_left _ member)

/-- The entry in the slot is the one that the last generation put there, if no
removal came after it. -/
theorem slotAfter_eq_some_iff (manager : Manager) (turns : List Turn)
    (entry : KeyEntry) : manager.slotAfter turns = some entry ↔
      ∃ earlier made later, turns = earlier ++ made :: later ∧
      made.Installs manager entry ∧ ∀ turn ∈ later, turn.Keeps manager := by
  constructor
  · intro stands
    -- By induction from the last turn on, since only later turns can undo what
    -- an earlier one did.
    induction turns using List.reverseRecOn with
    | nil => cases stands
    | append_singleton turns last ih =>
        rw [slotAfter_concat] at stands
        obtain ⟨other, installs⟩ | clears | keeps := last.kinds manager
        · rw [Turn.after_of_installs installs] at stands
          cases stands
          exact ⟨turns, last, [], rfl, installs, fun turn member =>
            absurd member List.not_mem_nil⟩
        · rw [Turn.after_of_clear clears] at stands
          cases stands
        · rw [Turn.after_of_keeps keeps] at stands
          obtain ⟨earlier, made, later, whole, installs, keep⟩ := ih stands
          refine ⟨earlier, made, later ++ [last], ?_, installs, ?_⟩
          · rw [whole, List.append_assoc, List.cons_append]
          · rw [List.forall_mem_append, List.forall_mem_singleton]
            exact ⟨keep, keeps⟩
  · rintro ⟨earlier, made, later, whole, installs, keep⟩
    have split : turns = (earlier ++ [made]) ++ later := by
      rw [whole, List.append_assoc, List.singleton_append]
    rw [split, slotAfter_append_of_keeps _ keep, slotAfter_concat,
      Turn.after_of_installs installs]

theorem certificates_of_slotAfter {turns : List Turn} {entry : KeyEntry}
    (stands : manager.slotAfter turns = some entry) :
    entry.certificates.length = 1 := by
  obtain ⟨_, _, _, _, ⟨_, made⟩, _⟩ :=
    (manager.slotAfter_eq_some_iff turns entry).1 stands
  exact SoftwareStore.certificates_of_freshEntry made

/-- What a manager shows of a slot and does to it, at every turn. -/
structure Shows (manager : Manager) (slot : Option KeyEntry) : Prop where
  present : ∀ supply, (Turn.mk .isPresent supply).answer manager slot =
    some slot.isSome
  created : ∀ supply, (Turn.mk .creationDate supply).answer manager slot =
    some (.ok (slot.map (·.createdAt)))
  certified : ∀ supply, ∃ chain,
    (Turn.mk .certificates supply).answer manager slot = some (.ok chain) ∧
    chain.length = if slot.isSome then 1 else 0
  cleared : ∀ supply, (Turn.mk .clear supply).answer manager slot =
    some slot.isSome ∧
    (Turn.mk .clear supply).after manager slot = none
  answered : ∀ turn : Turn, turn.answer manager slot =
    turn.operation.seen manager turn.supply slot
  /-- Work on the key fails for want of it exactly if there is no entry, unless
  the arguments are refused before. -/
  missing : ∀ turn : Turn, turn.operation.usesKey = true →
    ∃ answer, turn.answer manager slot = some answer ∧
    (∀ failure, turn.operation.refusal = some failure →
      turn.operation.failure? answer = some failure) ∧
    (turn.operation.refusal = none →
      (turn.operation.failure? answer = some (.keyMissing manager.keyAlias) ↔
        slot = none))
  installed : ∀ (turn : Turn) (entry : KeyEntry), turn.Installs manager entry →
    turn.after manager slot = some entry
  kept : ∀ turn : Turn, turn.Keeps manager → turn.after manager slot = slot

theorem shows_slotAfter (isPart : manager.provider.IsPart .standard)
    (turns : List Turn) : manager.Shows (manager.slotAfter turns) where
  present supply := Turn.answer_eq _ _ _
  created supply := Turn.answer_eq _ _ _
  certified supply := by
    refine ⟨_, Turn.answer_eq _ _ _, ?_⟩
    cases stands : manager.slotAfter turns with
    | none => rfl
    | some entry => exact certificates_of_slotAfter stands
  cleared supply := ⟨Turn.answer_eq _ _ _, Turn.after_of_clear rfl⟩
  answered := Turn.answer_eq manager _
  missing turn uses := by
    rw [Turn.answer_eq]
    exact ManagerCall.seen_usesKey isPart turn.supply _ uses
  installed turn entry installs := Turn.after_of_installs installs
  kept turn keeps := Turn.after_of_keeps keeps

/-- After any turns over a store that was empty, the slot holds what the last
generation that made an entry put there, and nothing if a removal came after it;
and everything that the manager shows is of this slot. -/
theorem one_slot {manager : Manager}
    (isPart : manager.provider.IsPart .standard) (turns : List Turn) :
    (∀ entry, manager.slotAfter turns = some entry ↔
      ∃ earlier made later, turns = earlier ++ made :: later ∧
      made.Installs manager entry ∧ ∀ turn ∈ later, turn.Keeps manager) ∧
    manager.Shows (manager.slotAfter turns) :=
  ⟨manager.slotAfter_eq_some_iff turns, shows_slotAfter isPart turns⟩

end Manager

/-! ### A key that the store makes -/

namespace SoftwareStore

theorem freshEntry_of_generate {supply : Supply}
    {parameters : GenerationParameters} {p q : Nat}
    (least : minKeySize ≤ parameters.keySize)
    (most : parameters.keySize ≤ maxKeySize)
    (generated : Rsa.PrivateKey.generate supply.tape parameters.keySize =
      Rsa.PrivateKey.ofPrimes p q Rsa.PrivateKey.usualExponent)
    (certified :
      (Rsa.PrivateKey.ofPrimes p q Rsa.PrivateKey.usualExponent >>= fun key =>
        (Certificate.selfSigned key parameters.commonName parameters.validity
          supply.now).mapError fun _ => .inconsistent).isOk = true) :
    ∃ entry, freshEntry supply parameters = some (.ok entry) ∧
      Rsa.PrivateKey.ofPrimes p q Rsa.PrivateKey.usualExponent =
        .ok entry.privateKey := by
  cases built : Rsa.PrivateKey.ofPrimes p q Rsa.PrivateKey.usualExponent with
  | error fault =>
      rw [built] at certified
      cases certified
  | ok key =>
      rw [built] at generated certified
      change ((Certificate.selfSigned key parameters.commonName
        parameters.validity supply.now).mapError _).isOk =
        true at certified
      cases issued : Certificate.selfSigned key parameters.commonName
        parameters.validity supply.now with
      | error fault =>
          rw [issued] at certified
          cases certified
      | ok certificate =>
          exact ⟨⟨key, [certificate], supply.now.seconds, .software⟩,
            freshEntry_eq_ok_iff.2 ⟨least, most, generated, certificate,
              issued, rfl⟩, rfl⟩

theorem freshEntry_primeTape :
    ∃ entry, freshEntry ⟨Rsa.primeTape, ⟨0⟩⟩ ⟨2048, "CN=device", 3600⟩ =
      some (.ok entry) := by
  obtain ⟨entry, made, _⟩ : ∃ entry,
      freshEntry ⟨Rsa.primeTape, ⟨0⟩⟩ ⟨2048, "CN=device", 3600⟩ =
        some (.ok entry) ∧
      Rsa.PrivateKey.ofPrimes (2 ^ 1024 - 105) (2 ^ 1024 - 179)
        Rsa.PrivateKey.usualExponent = .ok entry.privateKey :=
    freshEntry_of_generate (by decide) (by decide) Rsa.generate_primeTape
      (by decide +kernel)
  exact ⟨entry, made⟩

end SoftwareStore

namespace Manager

def bareManager : Manager :=
  ⟨"device", ⟨[], [("NONEwithRSA", .raw)], []⟩, ⟨2048, "CN=device", 3600⟩⟩

/-- The case of a generation, a look at the key and a removal, by a manager that
has no hasher: its generation fails, but the store has made an entry, which is
there until it is removed. -/
theorem one_slot_bare : bareManager.provider.IsPart .standard ∧
    ∃ (supply : SoftwareStore.Supply) (entry : KeyEntry),
    bareManager.slotAfter [⟨.generate, supply⟩, ⟨.thumbprint, supply⟩] =
      some entry ∧
    (Turn.mk .isPresent supply).answer bareManager
      (bareManager.slotAfter [⟨.generate, supply⟩, ⟨.thumbprint, supply⟩]) =
      some true ∧
    bareManager.slotAfter [⟨.generate, supply⟩, ⟨.thumbprint, supply⟩,
      ⟨.clear, supply⟩] = none ∧
    (Turn.mk .isPresent supply).answer bareManager
      (bareManager.slotAfter [⟨.generate, supply⟩, ⟨.thumbprint, supply⟩,
        ⟨.clear, supply⟩]) = some false := by
  obtain ⟨entry, made⟩ := SoftwareStore.freshEntry_primeTape
  -- From here on the supply has a name only, so that no step runs the
  -- generation again.
  generalize (⟨Rsa.primeTape, ⟨0⟩⟩ : SoftwareStore.Supply) = supply at made
  have isPart : bareManager.provider.IsPart .standard :=
    ⟨List.nil_subset _, List.cons_subset.2 ⟨List.mem_cons_self,
      List.nil_subset _⟩, List.nil_subset _⟩
  have keeps : (Turn.mk .thumbprint supply).Keeps bareManager :=
    ⟨nofun, fun other installs => nomatch installs.1⟩
  obtain ⟨settled, shows⟩ :=
    one_slot isPart [⟨.generate, supply⟩, ⟨.thumbprint, supply⟩]
  have stands := (settled entry).2 ⟨[], _, _, rfl, ⟨rfl, made⟩,
    List.forall_mem_singleton.2 keeps⟩
  have removed :=
    (slotAfter_concat bareManager [⟨.generate, supply⟩, ⟨.thumbprint, supply⟩]
      ⟨.clear, supply⟩).trans
    (shows.cleared supply).2
  have present := shows.present supply
  have absent :=
    (one_slot isPart [⟨.generate, supply⟩, ⟨.thumbprint, supply⟩,
      ⟨.clear, supply⟩]).2.present supply
  refine ⟨isPart, supply, entry, stands, ?_, removed, ?_⟩
  · rw [present, stands]
    rfl
  · exact absent.trans (congrArg (fun slot => some slot.isSome) removed)

end Manager

end BoundKey
