import BoundKey.Proofs.Manager.Calls
import BoundKey.Store.Software

set_option autoImplicit false

/-!
Clients that share one manager. Any number of clients run operations one after
another, and their calls on the store, each of which is one step, may come in
any order. A run is the list of what was seen of its steps, so that it can be
said what happened between the start and the end of one operation.
-/

namespace BoundKey

/-- A store that clients share: how it answers with its random choices, and the
entry that it holds. What it tells is what it holds, and what it has generated
it holds afterwards. -/
structure SharedStore (ρ σ : Type) where
  handler : ρ → Program.Handler StoreInterface σ
  held : σ → Option KeyEntry
  held_of_entry : ∀ (choice : ρ) (state : σ) (entry : KeyEntry),
    (handler choice state .entry).1 = some (.ok entry) → held state = some entry
  held_of_generate :
  ∀ (choice : ρ) (state : σ) (parameters : GenerationParameters)
    (entry : KeyEntry), (handler choice state (.generate parameters)).1 =
      some (.ok entry) →
      held (handler choice state (.generate parameters)).2.1 = some entry

namespace SharedStore

def software (keyAlias : String) :
    SharedStore SoftwareStore.Supply (Option KeyEntry) where
  handler := SoftwareStore.handler keyAlias
  held state := state
  held_of_entry choice state entry answered := by
    cases state with
    | none => cases answered
    | some present =>
        cases answered
        rfl
  held_of_generate choice state parameters entry answered := by
    rw [SoftwareStore.handler] at answered ⊢
    split at answered
    · next fresh made =>
        cases answered
        rfl
    · next other => exact absurd answered (other entry)

def provisioned : SharedStore Unit ProvisionedStore where
  handler _ := ProvisionedStore.handler
  held state := state.entry
  held_of_entry choice state entry answered := by
    have read : (do
        match ← state.read with
        | some entry => Except.ok entry
        | none => Except.error (StoreFault.notFound state.keyAlias)) =
        Except.ok entry := Option.some.inj answered
    rw [ProvisionedStore.read] at read
    cases fault : state.readingFault with
    | some reason =>
        rw [fault] at read
        cases read
    | none =>
        rw [fault] at read
        cases present : state.entry with
        | none =>
            rw [present] at read
            cases read
        | some found =>
            rw [present] at read
            exact congrArg some (Except.ok.inj read)
  held_of_generate choice state parameters entry answered := by
    change (state.generate parameters).1 = some (.ok entry) at answered
    change (state.generate parameters).2.entry = some entry
    rw [ProvisionedStore.generate] at answered ⊢
    split at answered
    · cases answered
      rfl
    · cases answered
    · cases answered

end SharedStore

variable {Client ρ σ : Type}

/-- An operation on its way: what it is and what it has still to do. -/
structure Pending where
  operation : ManagerCall
  rest : Program StoreInterface operation.Answer

/-- A store and the operations on their way, at most one of each client. -/
structure System (Client σ : Type) where
  store : σ
  pending : Client → Option Pending

inductive Event (Client ρ σ : Type) where
  | started (client : Client) (operation : ManagerCall)
  | emitted (client : Client) (signal : Signal)
  /-- A call on the store, with the states around it. -/
  | touched (client : Client) (choice : ρ) (request : StoreCall)
      (before after : σ)
  | finished (client : Client) (operation : ManagerCall)
      (value : operation.Answer)
  | brokeOff (client : Client) (operation : ManagerCall)

namespace Event

def client : Event Client ρ σ → Client
  | started client _ | emitted client _ | touched client _ _ _ _ | finished
      client _ _ | brokeOff client _ => client

def Bounds (client : Client) : Event Client ρ σ → Prop
  | started other _ | finished other _ _ | brokeOff other _ => other = client
  | _ => False

def Touches (client : Client) : Event Client ρ σ → Prop
  | touched other _ _ _ _ => other = client
  | _ => False

theorem not_bounds_of_other {client : Client} {event : Event Client ρ σ}
    (other : event.client ≠ client) : ¬ event.Bounds client := by
  cases event with
  | started | finished | brokeOff => exact other
  | emitted | touched => exact id

theorem not_touches_of_other {client : Client} {event : Event Client ρ σ}
    (other : event.client ≠ client) : ¬ event.Touches client := by
  cases event with
  | touched => exact other
  | started | finished | brokeOff | emitted => exact id

end Event

namespace System

variable [DecidableEq Client]

def put (system : System Client σ) (client : Client)
    (pending : Option Pending) : System Client σ :=
  { system with pending := fun other =>
    if other = client then pending else system.pending other }

@[simp] theorem put_same (system : System Client σ) (client : Client)
    (pending : Option Pending) :
    (system.put client pending).pending client = pending :=
  if_pos rfl

theorem put_other (system : System Client σ) {client other : Client}
    (different : other ≠ client)
    (pending : Option Pending) :
    (system.put client pending).pending other = system.pending other :=
  if_neg different

/-- One step of one client: it starts an operation, its operation emits a signal
or calls on the store, or its operation ends. -/
inductive Step (shared : SharedStore ρ σ) (manager : Manager) :
    System Client σ → Event Client ρ σ → System Client σ → Prop where
  | start {system : System Client σ} {client : Client} (operation : ManagerCall)
      (idle : system.pending client = none) :
      Step shared manager system (.started client operation)
        (system.put client (some ⟨operation, operation.program manager⟩))
  | emit {system : System Client σ} {client : Client} {operation : ManagerCall}
      {signal : Signal} {rest : Program StoreInterface operation.Answer}
      (here : system.pending client = some ⟨operation, .emit signal rest⟩) :
      Step shared manager system (.emitted client signal)
        (system.put client (some ⟨operation, rest⟩))
  | touch {system : System Client σ} {client : Client} {operation : ManagerCall}
      {request : StoreCall}
      {next : Option request.Answer → Program StoreInterface operation.Answer}
      (choice : ρ)
      (here : system.pending client = some ⟨operation, .call request next⟩) :
      Step shared manager system
        (.touched client choice request system.store
          (shared.handler choice system.store request).2.1)
        ({ system with store :=
          (shared.handler choice system.store request).2.1 }.put client
          (some ⟨operation, next (shared.handler choice system.store request).1⟩))
  | finish {system : System Client σ} {client : Client}
      {operation : ManagerCall} {value : operation.Answer}
      (here : system.pending client = some ⟨operation, .done value⟩) :
      Step shared manager system (.finished client operation value)
        (system.put client none)
  | breakOff {system : System Client σ} {client : Client}
      {operation : ManagerCall}
      (here : system.pending client = some ⟨operation, .abort⟩) :
      Step shared manager system (.brokeOff client operation)
        (system.put client none)

inductive Runs (shared : SharedStore ρ σ) (manager : Manager) :
    System Client σ → List (Event Client ρ σ) → System Client σ → Prop where
  | stay (system : System Client σ) : Runs shared manager system [] system
  | step {start middle last : System Client σ}
      {events : List (Event Client ρ σ)} {event : Event Client ρ σ}
      (runs : Runs shared manager start events middle)
      (step : Step shared manager middle event last) :
      Runs shared manager start (events ++ [event]) last

theorem Step.pending_other {shared : SharedStore ρ σ} {manager : Manager}
    {before after : System Client σ}
    {event : Event Client ρ σ} (step : Step shared manager before event after)
    {other : Client} (different : other ≠ event.client) :
    after.pending other = before.pending other := by
  cases step with
  | start operation idle => exact put_other _ different _
  | emit here => exact put_other _ different _
  | touch choice here => exact put_other _ different _
  | finish here => exact put_other _ different _
  | breakOff here => exact put_other _ different _

theorem Runs.split {shared : SharedStore ρ σ} {manager : Manager}
    {start last : System Client σ}
    {front back : List (Event Client ρ σ)} {event : Event Client ρ σ}
    (runs : Runs shared manager start (front ++ event :: back) last) :
    ∃ before after, Runs shared manager start front before ∧
      Step shared manager before event after := by
  generalize whole : front ++ event :: back = events at runs
  induction runs generalizing back with
  | stay =>
      exact absurd whole (List.append_ne_nil_of_right_ne_nil
        _ (List.cons_ne_nil _ _))
  | step runs step ih =>
      rcases List.eq_nil_or_concat back with none | ⟨others, final, more⟩
      · rw [none] at whole
        obtain ⟨sameFront, sameEvent⟩ := List.append_inj' whole rfl
        cases sameFront
        cases sameEvent
        exact ⟨_, _, runs, step⟩
      · rw [more, List.concat_eq_append, ← List.cons_append,
          ← List.append_assoc] at whole
        exact ih (List.append_inj' whole rfl).1

end System

end BoundKey
