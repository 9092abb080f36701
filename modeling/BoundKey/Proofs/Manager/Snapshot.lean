import BoundKey.Proofs.Manager.Interleaving

set_option autoImplicit false

/-!
Every operation of clients that share a manager has the value that it has when
it runs alone from the state in which its one call found the store. What carries
this is what a pending operation has still to do: up to its call that is as good
as the whole operation, and after its call it is what follows from the answer,
and no state has a part in it any more.
-/

namespace BoundKey

variable {Client ρ σ α : Type}

/-! ### One operation among others -/

/-- How a program has come to what it has still to do, seen among the steps of
everyone. -/
inductive Advanced (shared : SharedStore ρ σ) (client : Client)
    (program : Program StoreInterface α) :
    List (Event Client ρ σ) → Program StoreInterface α → Prop where
  | stay : Advanced shared client program [] program
  | other {during : List (Event Client ρ σ)} {rest : Program StoreInterface α}
      {event : Event Client ρ σ}
      (advanced : Advanced shared client program during rest)
      (other : event.client ≠ client) :
      Advanced shared client program (during ++ [event]) rest
  | emit {during : List (Event Client ρ σ)} {signal : Signal}
      {rest : Program StoreInterface α}
      (advanced : Advanced shared client program during (.emit signal rest)) :
      Advanced shared client program (during ++ [.emitted client signal]) rest
  | touch {during : List (Event Client ρ σ)} {request : StoreCall}
      {next : Option request.Answer → Program StoreInterface α}
      (choice : ρ) (before : σ)
      (advanced : Advanced shared client program during (.call request next)) :
      Advanced shared client program
        (during ++ [.touched client choice request before
          (shared.handler choice before request).2.1])
        (next (shared.handler choice before request).1)

namespace Advanced

variable {shared : SharedStore ρ σ} {client : Client}
  {program rest : Program StoreInterface α} {during : List (Event Client ρ σ)}

private theorem forall_mem_append_singleton {β : Type} {holds : β → Prop}
    {items : List β} {last : β} (all : ∀ item ∈ items, holds item)
    (also : holds last) : ∀ item ∈ items ++ [last], holds item := by
  rw [List.forall_mem_append, List.forall_mem_singleton]
  exact ⟨all, also⟩

theorem not_bounds (advanced : Advanced shared client program during rest) :
    ∀ event ∈ during, ¬ event.Bounds client := by
  induction advanced with
  | stay => exact fun event member => absurd member List.not_mem_nil
  | other advanced other ih =>
      exact forall_mem_append_singleton ih (Event.not_bounds_of_other other)
  | emit advanced ih => exact forall_mem_append_singleton ih id
  | touch choice before advanced ih => exact forall_mem_append_singleton ih id

theorem of_quiet (quiet : program.Quiet)
    (advanced : Advanced shared client program during rest) :
    (∀ event ∈ during, ¬ event.Touches client) ∧ rest.Quiet ∧
      program.silent = rest.silent := by
  induction advanced with
  | stay => exact ⟨fun event member => absurd member List.not_mem_nil, quiet, rfl⟩
  | other advanced other ih =>
      exact ⟨forall_mem_append_singleton ih.1
        (Event.not_touches_of_other other), ih.2⟩
  | emit advanced ih =>
      obtain ⟨untouched, emits, same⟩ := ih
      cases emits with
      | emit signal later =>
          exact ⟨forall_mem_append_singleton untouched id, later, same⟩
  | touch choice before advanced ih =>
      obtain ⟨_, calls, _⟩ := ih
      cases calls

inductive Phase (shared : SharedStore ρ σ) (client : Client)
    (program : Program StoreInterface α) :
    List (Event Client ρ σ) → Program StoreInterface α → Prop where
  | ahead {during : List (Event Client ρ σ)} {rest : Program StoreInterface α}
      (untouched : ∀ event ∈ during, ¬ event.Touches client) (once : rest.Once)
      (same : ∀ (handler : Program.Handler StoreInterface σ) (state : σ),
        (Program.run handler state program).1 =
          (Program.run handler state rest).1 ∧
          (Program.run handler state program).2.1 =
            (Program.run handler state rest).2.1) :
      Phase shared client program during rest
  | settled {early late : List (Event Client ρ σ)}
      {rest : Program StoreInterface α} (choice : ρ) (request : StoreCall)
      (before after : σ)
      (untouchedBefore : ∀ event ∈ early, ¬ event.Touches client)
      (untouchedAfter : ∀ event ∈ late, ¬ event.Touches client)
      (quiet : rest.Quiet)
      (value : (Program.run (shared.handler choice) before program).1 =
        rest.silent)
      (left : (Program.run (shared.handler choice) before program).2.1 = after) :
      Phase shared client program
        (early ++ .touched client choice request before after :: late) rest

/-- A program with one call keeps to these two phases. -/
theorem of_once (once : program.Once)
    (advanced : Advanced shared client program during rest) :
    Phase shared client program during rest := by
  induction advanced with
  | stay =>
      exact .ahead (fun event member => absurd member List.not_mem_nil)
        once fun handler state => ⟨rfl, rfl⟩
  | other advanced other ih =>
      have untouchedHere := Event.not_touches_of_other other
      cases ih with
      | ahead untouched once same =>
          exact .ahead (forall_mem_append_singleton untouched untouchedHere)
            once same
      | settled choice request before after untouchedBefore untouchedAfter
          quiet value left =>
          rw [List.append_assoc, List.cons_append]
          exact .settled choice request before after untouchedBefore
            (forall_mem_append_singleton untouchedAfter untouchedHere)
            quiet value left
  | emit advanced ih =>
      cases ih with
      | ahead untouched once same =>
          cases once with
          | emit signal later =>
              exact .ahead (forall_mem_append_singleton untouched id) later same
      | settled choice request before after untouchedBefore untouchedAfter
          quiet value left =>
          cases quiet with
          | emit signal later =>
              rw [List.append_assoc, List.cons_append]
              exact .settled choice request before after untouchedBefore
                (forall_mem_append_singleton untouchedAfter id) later value left
  | @touch during request next choice before advanced ih =>
      cases ih with
      | ahead untouched once same =>
          cases once with
          | call _ quiet =>
              obtain ⟨value, left⟩ := same (shared.handler choice) before
              obtain ⟨settled, kept⟩ :=
                (quiet (shared.handler choice before request).1).run_eq
                  (shared.handler choice)
                (shared.handler choice before request).2.1
              exact .settled choice request before _ untouched
                (fun event member => absurd member List.not_mem_nil)
                (quiet _) (value.trans settled) (left.trans kept)
      | settled _ _ _ _ _ _ quiet _ _ => cases quiet

end Advanced

/-! ### Tokens and generated keys -/

/-- What an operation that yields a token or generates a key has to do with the
states around its call: thumbprint, key and signature of the token are of the
key that the store held, and the thumbprint that a generation yields is that of
the key that the store holds afterwards. -/
def ManagerCall.Binds (shared : SharedStore ρ σ) (manager : Manager)
    (before after : σ) : (operation : ManagerCall) → operation.Answer → Prop
  | .mint tape request, .ok token => ∃ target entry thumbprint signer signature,
      RequestTarget.parse request.url = .ok target ∧
        shared.held before = some entry ∧
      manager.thumbprintOf entry = .ok thumbprint ∧
      manager.signer .sha256 = .ok signer ∧
      signer.sign tape (Utf8.encode (Jws.signingInput (Request.header thumbprint)
        (request.claims target entry.publicKey thumbprint))) entry.privateKey =
        .ok signature ∧
      token = Jws.token (Request.header thumbprint)
        (request.claims target entry.publicKey thumbprint) signature
  | .generate, .ok text =>
      ∃ entry, shared.held after = some entry ∧
        manager.thumbprintOf entry = .ok text
  | _, _ => True

theorem ManagerCall.binds_run (shared : SharedStore ρ σ) (manager : Manager)
    (choice : ρ) (state : σ) {operation : ManagerCall} {value : operation.Answer}
    (came :
      (Program.run (shared.handler choice) state
        (operation.program manager)).1 = some value) :
    operation.Binds shared manager state
      (Program.run (shared.handler choice) state
        (operation.program manager)).2.1 value := by
  cases operation with
  | mint tape request =>
      cases value with
      | error failure => trivial
      | ok token =>
          cases parsed : RequestTarget.parse request.url with
          | error failure =>
              have quiet :
                  ((ManagerCall.mint tape request).program manager).Quiet := by
                apply program_quiet manager
                rw [isRefused, parsed]
                rfl
              rw [(quiet.run_eq _ _).1] at came
              change ((manager.tokenFor tape request).reporting _).run.silent =
                _ at came
              rw [Manager.tokenFor, parsed] at came
              cases came
          | ok target =>
              have made :=
                (Manager.run_mint (shared.handler choice) state manager
                  tape parsed).symm.trans came
              obtain ⟨answer, answered, worked⟩ := Option.map_eq_some_iff.1 made
              obtain ⟨entry, told, token⟩ := bind_eq_ok_iff.1 worked
              rw [mapError_eq_ok_iff] at told
              obtain ⟨thumbprint, signer, signature, parts⟩ :=
                Manager.tokenOf_eq_ok_iff.1 token
              exact ⟨target, entry, thumbprint, signer, signature, parsed,
                shared.held_of_entry choice state entry (told ▸ answered), parts⟩
  | generate =>
      cases value with
      | error failure => trivial
      | ok text =>
          obtain ⟨valued, left⟩ :=
            Manager.run_generate (shared.handler choice) state manager
          obtain ⟨answer, answered, worked⟩ :=
            Option.map_eq_some_iff.1 (valued.symm.trans came)
          obtain ⟨entry, told, identified⟩ := bind_eq_ok_iff.1 worked
          rw [mapError_eq_ok_iff] at told
          refine ⟨entry, ?_, identified⟩
          rw [program, left]
          exact shared.held_of_generate choice state manager.parameters entry
            (told ▸ answered)
  | _ => trivial

/-! ### All operations -/

namespace System

variable [DecidableEq Client] {shared : SharedStore ρ σ} {manager : Manager}
  {start last : System Client σ} {events : List (Event Client ρ σ)}

/-- Every operation on its way was started, and has advanced since then to what
it has still to do. -/
theorem Runs.advanced (runs : Runs shared manager start events last)
    (idle : ∀ client, start.pending client = none)
    {client : Client} {pending : Pending}
    (here : last.pending client = some pending) :
    ∃ earlier during,
      events = earlier ++ .started client pending.operation :: during ∧
      Advanced shared client (pending.operation.program manager) during
        pending.rest := by
  induction runs generalizing client pending with
  | stay =>
      rw [idle client] at here
      cases here
  | @step middle last events event runs step ih =>
      by_cases same : client = event.client
      · subst same
        cases step with
        | start operation unoccupied =>
            cases (put_same middle _ _).symm.trans here
            exact ⟨events, [], rfl, .stay⟩
        | emit present =>
            cases (put_same middle _ _).symm.trans here
            obtain ⟨earlier, during, whole, advanced⟩ := ih present
            refine ⟨earlier, _, ?_, advanced.emit⟩
            rw [whole, List.append_assoc]
            rfl
        | touch choice present =>
            cases (put_same _ _ _).symm.trans here
            obtain ⟨earlier, during, whole, advanced⟩ := ih present
            refine ⟨earlier, _, ?_, advanced.touch choice middle.store⟩
            rw [whole, List.append_assoc]
            rfl
        | finish present => cases (put_same middle _ _).symm.trans here
        | breakOff present => cases (put_same middle _ _).symm.trans here
      · rw [step.pending_other same] at here
        obtain ⟨earlier, during, whole, advanced⟩ := ih here
        refine ⟨earlier, during ++ [event], ?_, advanced.other fun other =>
          same other.symm⟩
        rw [whole, List.append_assoc]
        rfl

/-- Every operation that finishes has the value that it has when it runs alone
from one state: the state in which its one call found the store, between its
start and its end, or any state if it is refused on its arguments and makes no
call. A token is of the one key that the store held at that moment, and a
generation yields the thumbprint of the key that it put there itself, whatever
the other clients do in the meantime. -/
theorem finished_as_if_alone (runs : Runs shared manager start events last)
    (idle : ∀ client, start.pending client = none) {client : Client}
    {operation : ManagerCall} {value : operation.Answer}
    {front back : List (Event Client ρ σ)}
    (finished : events = front ++ .finished client operation value :: back) :
    ∃ earlier during, front = earlier ++ .started client operation :: during ∧
      (∀ event ∈ during, ¬ event.Bounds client) ∧
      ((operation.isRefused = true ∧ (∀ event ∈ during, ¬ event.Touches client) ∧
          ∀ choice state, (Program.run (shared.handler choice) state
            (operation.program manager)).1 = some value) ∨
        (operation.isRefused = false ∧ ∃ early late choice request moment after,
          during = early ++ .touched client choice request
            moment.store after :: late ∧
          (∀ event ∈ early, ¬ event.Touches client) ∧
          (∀ event ∈ late, ¬ event.Touches client) ∧
          Runs shared manager start
            (earlier ++ .started client operation :: early) moment ∧
          (Program.run (shared.handler choice) moment.store
            (operation.program manager)).1 = some value ∧
          (Program.run (shared.handler choice) moment.store
            (operation.program manager)).2.1 = after ∧
          operation.Binds shared manager moment.store after value)) := by
  subst finished
  obtain ⟨before, after, upTo, step⟩ := runs.split
  cases step with
  | finish here =>
      obtain ⟨earlier, during, whole, advanced⟩ := upTo.advanced idle here
      refine ⟨earlier, during, whole, advanced.not_bounds, ?_⟩
      cases refused : operation.isRefused with
      | true =>
          obtain ⟨untouched, _, settled⟩ :=
            advanced.of_quiet (ManagerCall.program_quiet manager refused)
          refine .inl ⟨rfl, untouched, ?_⟩
          intro choice state
          exact ((ManagerCall.program_quiet manager refused).run_eq _ _).1.trans
            settled
      | false =>
          refine .inr ⟨rfl, ?_⟩
          cases advanced.of_once (ManagerCall.program_once manager refused) with
          | ahead _ once _ => cases once
          | @settled early late _ choice request found left untouchedBefore
              untouchedAfter _ came leftBehind =>
              have inFront : front =
                  (earlier ++ .started client operation :: early) ++
                  .touched client choice request found left :: late := by
                rw [whole, List.append_assoc]
                rfl
              rw [inFront] at upTo
              obtain ⟨moment, later, upToCall, call⟩ := upTo.split
              have same : found = moment.store := by
                cases call
                rfl
              subst same
              refine ⟨early, late, choice, request, moment, left, rfl,
                untouchedBefore, untouchedAfter, upToCall, came,
                leftBehind, ?_⟩
              rw [← leftBehind]
              exact ManagerCall.binds_run shared manager choice moment.store came

def pairStart : System Bool ProvisionedStore :=
  ⟨Manager.mersenneStore, fun _ => none⟩

def clearedStore : ProvisionedStore :=
  { Manager.mersenneStore with entry := none }

def pairFront : List (Event Bool Unit ProvisionedStore) :=
  [.started false .isPresent, .started true .clear,
    .touched true () .clear Manager.mersenneStore clearedStore,
    .touched false () .isPresent clearedStore clearedStore]

private theorem pair_runs : ∃ last,
    Runs .provisioned Manager.standardManager pairStart
    (pairFront ++ [.finished false .isPresent false]) last := by
  have asked := (Runs.stay pairStart).step
    (show Step .provisioned Manager.standardManager
      _ (.started false .isPresent) _ from .start .isPresent rfl)
  have ordered :=
    asked.step (show Step _ _ _ (.started true .clear) _ from .start .clear rfl)
  have removed :=
    ordered.step (show Step _ _ _ (.touched true () .clear _ _)
      _ from .touch () rfl)
  have answered :=
    removed.step (show Step _ _ _ (.touched false () .isPresent _ _)
      _ from .touch () rfl)
  exact ⟨_, answered.step (.finish rfl)⟩

/-- The answer is the one after the removal, although the question was asked
before. -/
theorem finished_as_if_alone_pair : ∃ earlier during,
    pairFront = earlier ++ .started false .isPresent :: during ∧
    (∀ event ∈ during, ¬ event.Bounds false) ∧
    ((ManagerCall.isPresent.isRefused = true ∧
      (∀ event ∈ during, ¬ event.Touches false) ∧
        ∀ choice state,
          (Program.run (SharedStore.provisioned.handler choice) state
          (ManagerCall.isPresent.program Manager.standardManager)).1 =
          some false) ∨
      (ManagerCall.isPresent.isRefused = false ∧
        ∃ early late choice request moment after,
        during = early ++ .touched false choice request
          moment.store after :: late ∧
        (∀ event ∈ early, ¬ event.Touches false) ∧
        (∀ event ∈ late, ¬ event.Touches false) ∧
        Runs .provisioned Manager.standardManager pairStart
          (earlier ++ .started false .isPresent :: early) moment ∧
        (Program.run (SharedStore.provisioned.handler choice) moment.store
          (ManagerCall.isPresent.program Manager.standardManager)).1 =
          some false ∧
        (Program.run (SharedStore.provisioned.handler choice) moment.store
          (ManagerCall.isPresent.program Manager.standardManager)).2.1 = after ∧
        ManagerCall.isPresent.Binds .provisioned Manager.standardManager
          moment.store after false)) := by
  obtain ⟨last, runs⟩ := pair_runs
  exact finished_as_if_alone runs (fun _ => rfl) rfl

end System

end BoundKey
