import BoundKey.Proofs.Manager.Turns
import BoundKey.Proofs.Pool.Completion
import BoundKey.Service

set_option autoImplicit false

/-!
Deferred operations, as they are handed in at a pool and as a service offers
them. The task of a deferred operation is an operation of the manager, with one
call on the store.
-/

namespace BoundKey

/-! ### Deferred operations -/

inductive DeferredCall where
  | generateWithCallback
  | confirmationWithCallback
  | awaitConfirmation

namespace DeferredCall

def notice : DeferredCall → Notice
  | generateWithCallback | confirmationWithCallback => .callback
  | awaitConfirmation => .handle

def task : DeferredCall → ManagerCall
  | generateWithCallback => .generate
  | confirmationWithCallback | awaitConfirmation => .requestConfirmation

/-- What the task does, which is what the caller would do without a pool. -/
def direct (manager : Manager) :
    DeferredCall → Program StoreInterface (Except Failure String)
  | generateWithCallback => manager.generate.run
  | confirmationWithCallback | awaitConfirmation =>
      manager.requestConfirmation.run

def facade (service : Service) : DeferredCall → StoreOperation String
  | generateWithCallback => service.generateWithCallback
  | confirmationWithCallback => service.confirmationWithCallback
  | awaitConfirmation => service.awaitConfirmation

def pending (rest : Program StoreInterface (Except Failure String)) :
    DeferredCall → Pending
  | generateWithCallback => ⟨.generate, rest⟩
  | confirmationWithCallback | awaitConfirmation => ⟨.requestConfirmation, rest⟩

variable {Client ρ σ : Type}

def ending (ticket : Nat) (outcome : Option (Except Failure String)) :
    DeferredCall → Event (Client ⊕ Nat) ρ σ
  | generateWithCallback =>
    match outcome with
    | some value => .finished (.inr ticket) .generate value
    | none => .brokeOff (.inr ticket) .generate
  | confirmationWithCallback | awaitConfirmation =>
    match outcome with
    | some value => .finished (.inr ticket) .requestConfirmation value
    | none => .brokeOff (.inr ticket) .requestConfirmation

theorem pending_direct (call : DeferredCall) (manager : Manager) :
    call.pending (call.direct manager) =
      ⟨call.task, call.task.program manager⟩ := by
  cases call with
  | generateWithCallback | confirmationWithCallback | awaitConfirmation => rfl

theorem advance_pending (call : DeferredCall)
    (stores : ρ → Program.Handler StoreInterface σ) (choice : ρ) (store : σ)
    (ticket : Nat) (rest : Program StoreInterface (Except Failure String)) :
    ((call.pending rest).advance stores choice store (.inr ticket) :
      Event (Client ⊕ Nat) ρ σ × σ × Option Pending) =
      match rest with
      | .done value => (call.ending ticket (some value), store, none)
      | .abort => (call.ending ticket none, store, none)
      | .emit signal rest =>
          (.emitted (.inr ticket) signal, store, some (call.pending rest))
      | .call request next =>
        (.touched (.inr ticket) choice request store
          (stores choice store request).2.1,
          (stores choice store request).2.1,
          some (call.pending (next (stores choice store request).1))) := by
  cases call with
  | generateWithCallback | confirmationWithCallback | awaitConfirmation =>
      cases rest with
      | done | abort | emit | call => rfl

theorem bounds_ending (call : DeferredCall) (ticket : Nat)
    (outcome : Option (Except Failure String)) :
    (call.ending ticket outcome : Event (Client ⊕ Nat) ρ σ).Bounds
      (.inr ticket) := by
  cases call with
  | generateWithCallback | confirmationWithCallback | awaitConfirmation =>
      cases outcome with
      | none | some => rfl

theorem once_direct (call : DeferredCall) (manager : Manager) :
    (call.direct manager).Once := by
  have once {operation : ManagerCall} (accepted : operation.isRefused = false) :
      (operation.program manager).Once :=
    ManagerCall.program_once manager accepted
  cases call with
  | generateWithCallback =>
      exact once (rfl : ManagerCall.generate.isRefused = false)
  | confirmationWithCallback | awaitConfirmation =>
      exact once (rfl : ManagerCall.requestConfirmation.isRefused = false)

end DeferredCall

/-! ### Programs at their end -/

namespace Program

variable {interface : Interface} {α σ : Type}

def comeOut : Option α → Program interface α
  | some value => .done value
  | none => .abort

theorem run_comeOut (handler : Handler interface σ) (state : σ)
    (outcome : Option α) :
    run handler state (comeOut outcome) = (outcome, state, []) := by
  cases outcome with
  | none | some => rfl

theorem not_once_comeOut (outcome : Option α) :
    ¬ (comeOut outcome : Program interface α).Once := by
  intro once
  cases outcome with
  | none | some => cases once

end Program

/-! ### Facades -/

section Facades

variable {interface : Interface} {α σ : Type}

theorem Program.run_orElse (handler : Program.Handler interface σ) (state : σ)
    (program other : Program interface α) :
    Program.run handler state (program.orElse other) =
      match Program.run handler state program with
      | (some value, last, signals) => (some value, last, signals)
      | (none, last, signals) =>
        let later := Program.run handler last other
        (later.1, later.2.1, signals ++ later.2.2) := by
  induction program generalizing state with
  | done value => rfl
  | abort => rfl
  | emit signal rest ih =>
      rw [orElse, run_emit, ih, run_emit]
      rcases run handler state rest with ⟨value, last, signals⟩
      cases value with
      | none => rfl
      | some value => rfl
  | call request rest ih =>
      rw [orElse, run_call, run_call]
      dsimp only
      rw [ih]
      rcases run handler (handler state request).2.1
        (rest (handler state request).1) with ⟨value, last, signals⟩
      cases value with
      | none =>
          dsimp only
          rw [List.append_assoc]
      | some value => rfl

def DeferredCall.dropped (call : DeferredCall) : List Signal :=
  match call.notice with
  | .callback => [.log .taskDropped]
  | .handle => []

/-- What a service offers comes to what its caller is told of the task when this
runs alone. -/
theorem DeferredCall.run_facade (call : DeferredCall) (service : Service)
    (handler : Program.Handler StoreInterface σ)
    (state : σ) :
    Program.run handler state (call.facade service).run =
      let alone := Program.run handler state (call.direct service.manager)
      (some (Job.told alone.1), alone.2.1,
        alone.2.2 ++ if alone.1.isNone then call.dropped else []) := by
  have told (operation : StoreOperation String) (signals : List Signal)
      (other : Program StoreInterface (Except Failure String))
      (ends : ∀ state, Program.run handler state other =
        (some (Job.told none), state, signals)) :
      Program.run handler state (operation.run.orElse other) =
        let alone := Program.run handler state operation.run
        (some (Job.told alone.1), alone.2.1,
          alone.2.2 ++ if alone.1.isNone then signals else []) := by
    rw [Program.run_orElse]
    rcases Program.run handler state operation.run with ⟨value, last, early⟩
    cases value with
    | none => simp [ends]
    | some value => simp [Job.told]
  cases call with
  | generateWithCallback => exact told service.manager.generate _ _ fun _ => rfl
  | confirmationWithCallback =>
      exact told service.manager.requestConfirmation _ _ fun _ => rfl
  | awaitConfirmation =>
      exact told service.manager.requestConfirmation _ _ fun _ => rfl

end Facades

end BoundKey
