import BoundKey.Manager.Basic
import BoundKey.Proofs.Program
import BoundKey.Proofs.Rsa.Key
import BoundKey.Store.Provisioned

set_option autoImplicit false

/-!
Operations on the entry of the store. An operation that asks for the entry and
works on it comes to what the work yields on the one answer of the store; what
it logs makes no difference to its value.
-/

namespace BoundKey.Manager

variable {σ α : Type}

theorem once_entry (manager : Manager) : manager.entry.run.Once := by
  apply Program.Once.bind (Program.once_perform StoreInterface StoreCall.entry)
  intro answer
  cases answer with
  | ok entry => exact .done _
  | error fault => exact .emit _ (.done _)

theorem once_ask (request : StoreCall)
    (answered : request.Answer → Except StoreFault α) :
    (ask request answered).run.Once := by
  apply Program.Once.bind (Program.once_perform StoreInterface request)
  intro answer
  exact .done _

theorem run_ask (handler : Program.Handler StoreInterface σ) (state : σ)
    (request : StoreCall) (answered : request.Answer → Except StoreFault α) :
    (Program.run handler state (ask request answered).run).1 =
      ((handler state request).1).map
        (fun answer => (answered answer).mapError Failure.ofStore) ∧
    (Program.run handler state (ask request answered).run).2.1 =
      (handler state request).2.1 := by
  change (Program.run handler state (.call request _)).1 = _ ∧
    (Program.run handler state (.call request _)).2.1 = _
  rw [Program.run_call]
  dsimp only
  cases (handler state request).1 with
  | none => exact ⟨rfl, rfl⟩
  | some answer => exact ⟨rfl, rfl⟩

/-- Work on the entry: the store is asked once, and its answer is all that
counts. -/
theorem run_entry_bind (handler : Program.Handler StoreInterface σ) (state : σ)
    (manager : Manager) (work : KeyEntry → Except Failure α) :
    (Program.run handler state
      (manager.entry >>= fun entry => Operation.ofExcept (work entry)).run).1 =
      ((handler state .entry).1).map fun answer =>
        answer.mapError Failure.ofStore >>= work := by
  change (Program.run handler state (.call StoreCall.entry _)).1 = _
  rw [Program.run_call]
  dsimp only
  cases answered : (handler state .entry).1 with
  | none => rfl
  | some answer =>
      cases answer with
      | ok entry => rfl
      | error fault => rfl

def mersenneEntry : KeyEntry :=
  ⟨Rsa.mersenneKey, [], 0, .software⟩

def mersenneStore : ProvisionedStore :=
  { ProvisionedStore.empty "device" [] with entry := some mersenneEntry }

def standardManager : Manager :=
  ⟨"device", .standard, ⟨2048, "device", 0⟩⟩

theorem once_entry_bind (manager : Manager) {next : KeyEntry → StoreOperation α}
    (follows : ∀ entry, (next entry).run.Quiet) :
    (manager.entry >>= next).run.Once :=
  Operation.once_bind manager.once_entry follows

theorem once_entry_with {β : Type} (manager : Manager) (lookup : Except Failure β)
    (work : KeyEntry → β → Except Failure α) :
    (manager.entry >>= fun entry => Operation.ofExcept lookup >>= fun primitive =>
      Operation.ofExcept (work entry primitive)).run.Once := by
  apply once_entry_bind manager
  intro entry
  apply Operation.quiet_bind (Operation.quiet_ofExcept lookup)
  intro primitive
  exact Operation.quiet_ofExcept (work entry primitive)

end BoundKey.Manager
