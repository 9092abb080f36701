import BoundKey.Proofs.Pool.Deferred

set_option autoImplicit false

/-!
A pool and a manager at work together. A caller hands an operation in at the
pool; the task of its job is then one of the clients of the manager, from the
moment at which a worker takes the job until the task comes out, and callers
that use the manager directly go on in the meantime. What the pool does is a run
of the pool, and what tasks and callers do is a run of clients of the manager,
so how far a job has come says what its task has done so far.
-/

namespace BoundKey

variable {Client ρ σ : Type}

def Event.comesOut? : Event (Client ⊕ Nat) ρ σ →
    Option (Nat × Option (Except Failure String))
  | .finished (.inr ticket) .generate value => some (ticket, some value)
  | .finished (.inr ticket) .requestConfirmation value =>
      some (ticket, some value)
  | .brokeOff (.inr ticket) _ => some (ticket, none)
  | _ => none

theorem Event.client_of_comesOut {event : Event (Client ⊕ Nat) ρ σ} {ticket : Nat}
    {outcome : Option (Except Failure String)}
    (ends : event.comesOut? = some (ticket, outcome)) :
    event.client = .inr ticket := by
  unfold comesOut? at ends
  split at ends
  · cases ends
    rfl
  · cases ends
    rfl
  · cases ends
    rfl
  · cases ends

theorem DeferredCall.comesOut_ending (call : DeferredCall) (ticket : Nat)
    (outcome : Option (Except Failure String)) :
    (call.ending ticket outcome : Event (Client ⊕ Nat) ρ σ).comesOut? =
      some (ticket, outcome) := by
  cases call with
  | generateWithCallback | confirmationWithCallback | awaitConfirmation =>
      cases outcome with
      | none | some => rfl

def Job.Move.ofOutcome : Option (Except Failure String) → Job.Move String
  | some value => .yield value
  | none => .breakOff

/-- Whether a move of a pool has nothing to do with what tasks do. -/
def Pool.Move.isApart : Pool.Move String → Bool
  | .add _ => false
  | .job _ .take | .job _ (.yield _) | .job _ .breakOff => false
  | .job _ _ | .shutDown => true

def Job.Move.isDiscard : Job.Move String → Bool
  | .discard => true
  | _ => false

/-- A pool with the operations that were handed in, and the manager's clients:
callers, and tasks by their tickets. -/
structure Live (Client σ : Type) where
  pool : Pool String
  calls : List DeferredCall
  system : System (Client ⊕ Nat) σ

namespace Live

abbrev Seen (Client ρ σ : Type) :=
  Option (Pool.Move String × List LogEvent) × Option (Event (Client ⊕ Nat) ρ σ)

def poolHistory (seen : List (Seen Client ρ σ)) :
    List (Pool.Move String × List LogEvent) :=
  seen.filterMap Prod.fst

def systemEvents (seen : List (Seen Client ρ σ)) :
    List (Event (Client ⊕ Nat) ρ σ) :=
  seen.filterMap Prod.snd

theorem poolHistory_append (seen : List (Seen Client ρ σ))
    (last : Seen Client ρ σ) :
    poolHistory (seen ++ [last]) = poolHistory seen ++ last.1.toList := by
  obtain ⟨move, event⟩ := last
  cases move with
  | none => simp [poolHistory]
  | some move => simp [poolHistory]

theorem systemEvents_append (seen : List (Seen Client ρ σ))
    (last : Seen Client ρ σ) :
    systemEvents (seen ++ [last]) = systemEvents seen ++ last.2.toList := by
  obtain ⟨move, event⟩ := last
  cases event with
  | none => simp [systemEvents]
  | some event => simp [systemEvents]

theorem historyOf_pass {seen : List (Seen Client ρ σ)} {piece : Seen Client ρ σ}
    {ticket : Nat}
    (unmoved : ∀ made ∈ piece.1, Pool.Move.on? ticket made = none) :
    Pool.historyOf ticket (poolHistory (seen ++ [piece])) =
      Pool.historyOf ticket (poolHistory seen) := by
  obtain ⟨made, event⟩ := piece
  rw [poolHistory_append]
  cases made with
  | none => rw [Option.toList_none, List.append_nil]
  | some made =>
      rw [Option.toList_some, Pool.historyOf_append, unmoved made rfl,
        Option.toList_none, List.append_nil]

/-- One step: an operation is handed in; the pool moves on its own; a worker
takes a job, and its task starts; a caller or a task takes a turn; or a task
comes out, and its job goes on with that. -/
inductive Step [DecidableEq Client]
    (stores : ρ → Program.Handler StoreInterface σ) (manager : Manager) :
    Live Client σ → Seen Client ρ σ → Live Client σ → Prop where
  | handIn {live : Live Client σ} {pool : Pool String} {logged : List LogEvent}
      (call : DeferredCall)
      (made : live.pool.advance? (.add call.notice) = some (pool, logged)) :
      Step stores manager live (some (.add call.notice, logged), none)
        { live with pool, calls := live.calls ++ [call] }
  | apart {live : Live Client σ} {pool : Pool String} {move : Pool.Move String}
      {logged : List LogEvent} (apart : move.isApart = true)
      (made : live.pool.advance? move = some (pool, logged)) :
      Step stores manager live (some (move, logged), none) { live with pool }
  | take {live : Live Client σ} {pool : Pool String}
      {system : System (Client ⊕ Nat) σ} {ticket : Nat}
      {call : DeferredCall} {logged : List LogEvent}
      (here : live.calls[ticket]? = some call)
      (made : live.pool.advance? (.job ticket .take) = some (pool, logged))
      (turn : System.Turn stores manager live.system
        (.started (.inr ticket) call.task) system) :
      Step stores manager live (some (.job ticket .take, logged),
        some (.started (.inr ticket) call.task)) { live with pool, system }
  | turn {live : Live Client σ} {system : System (Client ⊕ Nat) σ}
      {event : Event (Client ⊕ Nat) ρ σ}
      (turn : System.Turn stores manager live.system event system)
      (unbound : ∀ ticket, ¬ event.Bounds (.inr ticket)) :
      Step stores manager live (none, some event) { live with system }
  | comeOut {live : Live Client σ} {pool : Pool String}
      {system : System (Client ⊕ Nat) σ}
      {event : Event (Client ⊕ Nat) ρ σ} {ticket : Nat}
      {outcome : Option (Except Failure String)}
      {logged : List LogEvent}
      (turn : System.Turn stores manager live.system event system)
      (ends : event.comesOut? = some (ticket, outcome))
      (made : live.pool.advance? (.job ticket (.ofOutcome outcome)) =
        some (pool, logged)) :
      Step stores manager live (some (.job ticket (.ofOutcome outcome), logged),
        some event) { live with pool, system }

/-! ### A job and its task -/

def wasDiscarded (history : List (Job.Move String × List LogEvent)) : Bool :=
  history.any (·.1.isDiscard)

/-- What a task has done when its job has come to a stage, and what it has still
to do. -/
inductive Coupled (stores : ρ → Program.Handler StoreInterface σ)
    (manager : Manager) (ticket : Nat)
    (call : DeferredCall) :
    Bool → Stage String → List (Event (Client ⊕ Nat) ρ σ) →
      Option Pending → Prop where
  | queued : Coupled stores manager ticket call false .queued [] none
  | running {own : List (Event (Client ⊕ Nat) ρ σ)}
      {rest : Program StoreInterface (Except Failure String)}
      (course : Course stores (.inr ticket) (call.direct manager) own rest) :
      Coupled stores manager ticket call false .running
        (.started (.inr ticket) call.task :: own) (some (call.pending rest))
  | discarded {stage : Stage String} (came : stage.outcome? = some none) :
      Coupled stores manager ticket call true stage [] none
  | ended {stage : Stage String} {own : List (Event (Client ⊕ Nat) ρ σ)}
      {outcome : Option (Except Failure String)}
      (came : stage.outcome? = some outcome)
      (course : Course stores (.inr ticket) (call.direct manager) own
        (.comeOut outcome)) :
      Coupled stores manager ticket call false stage
        (.started (.inr ticket) call.task :: own
          ++ [call.ending ticket outcome]) none

namespace Coupled

variable {stores : ρ → Program.Handler StoreInterface σ} {manager : Manager}
  {ticket : Nat} {call : DeferredCall}
  {thrown : Bool} {stage : Stage String} {own : List (Event (Client ⊕ Nat) ρ σ)}
  {pending : Option Pending}

/-- Once the task has come out, only that counts. -/
theorem of_outcome
    (coupled : Coupled stores manager ticket call thrown stage own pending)
    {later : Stage String} {outcome : Option (Except Failure String)}
    (came : stage.outcome? = some outcome)
    (same : later.outcome? = some outcome) :
    Coupled stores manager ticket call thrown later own pending := by
  cases coupled with
  | queued => cases came
  | running => cases came
  | discarded none => exact .discarded (same.trans (came.symm.trans none))
  | ended some course => exact .ended (same.trans (came.symm.trans some)) course

theorem apart {job next : Job String} {move : Job.Move String}
    {logged : List LogEvent}
    (coupled : Coupled stores manager ticket call thrown job.stage own pending)
    (step : job.Step move next logged)
    (apart : (Pool.Move.job ticket move).isApart = true) :
    Coupled stores manager ticket call (move.isDiscard || thrown) next.stage
      own pending := by
  cases step with
  | take here => cases apart
  | yield result here => cases apart
  | breakOff here => cases apart
  | discard here =>
      rw [here] at coupled
      cases coupled with
      | queued => exact .discarded rfl
      | discarded came => cases came
      | ended came => cases came
  | @answer result breaksOff here owed =>
      refine coupled.of_outcome (congrArg Stage.outcome? here) ?_
      cases breaksOff with
      | true | false => rfl
  | send here settled sent =>
      exact coupled.of_outcome (congrArg Stage.outcome? here) rfl
  | leaveOwing here owed =>
      exact coupled.of_outcome (congrArg Stage.outcome? here) rfl
  | leave here settled =>
      exact coupled.of_outcome (congrArg Stage.outcome? here) rfl
  | drop kept =>
      exact coupled
  | wait handle kept got =>
      exact coupled

theorem of_queued
    (coupled : Coupled stores manager ticket call thrown .queued own pending) :
    pending = none := by
  cases coupled with
  | queued => rfl
  | discarded came => cases came
  | ended came => cases came

theorem of_running
    (coupled : Coupled stores manager ticket call thrown .running own pending) :
    ∃ rest, pending = some (call.pending rest) := by
  cases coupled with
  | running => exact ⟨_, rfl⟩
  | discarded came => cases came
  | ended came => cases came

theorem of_came
    (coupled : Coupled stores manager ticket call thrown stage own pending)
    {outcome : Option (Except Failure String)}
    (came : stage.outcome? = some outcome) :
    thrown = true ∧ outcome = none ∧ own = [] ∨
      thrown = false ∧ ∃ during,
        Course stores (.inr ticket) (call.direct manager) during
          (.comeOut outcome) ∧
        own = .started (.inr ticket) call.task :: during
          ++ [call.ending ticket outcome] := by
  cases coupled with
  | queued => cases came
  | running => cases came
  | discarded none =>
      exact .inl ⟨rfl, Option.some.inj (came.symm.trans none), rfl⟩
  | ended some course =>
      cases came.symm.trans some
      exact .inr ⟨rfl, _, course, rfl⟩

end Coupled

/-- A place in a pool is free, or has the job of the operation that was handed
in there. -/
inductive Paired (stores : ρ → Program.Handler StoreInterface σ)
    (manager : Manager) (ticket : Nat) :
    Option DeferredCall → Option (Job String) → Bool →
      List (Event (Client ⊕ Nat) ρ σ) → Option Pending → Prop where
  | free : Paired stores manager ticket none none false [] none
  | taken {call : DeferredCall} {job : Job String} {thrown : Bool}
      {own : List (Event (Client ⊕ Nat) ρ σ)}
      {pending : Option Pending} (notice : job.notice = call.notice)
      (coupled : Coupled stores manager ticket call thrown
        job.stage own pending) :
      Paired stores manager ticket (some call) (some job) thrown own pending

namespace Paired

variable {stores : ρ → Program.Handler StoreInterface σ} {manager : Manager}
  {ticket : Nat} {call : DeferredCall}
  {handedIn : Option DeferredCall} {place : Option (Job String)} {thrown : Bool}
  {own : List (Event (Client ⊕ Nat) ρ σ)} {pending : Option Pending}

theorem none_iff
    (paired : Paired stores manager ticket handedIn place thrown own pending) :
    handedIn = none ↔ place = none := by
  cases paired with
  | free => exact iff_of_true rfl rfl
  | taken => exact iff_of_false nofun nofun

theorem of_none
    (paired : Paired stores manager ticket none place thrown own pending) :
    thrown = false ∧ own = [] ∧ pending = none := by
  cases paired with
  | free => exact ⟨rfl, rfl, rfl⟩

theorem of_some
    (paired : Paired stores manager ticket (some call) place thrown own pending) :
    ∃ job, place = some job ∧ job.notice = call.notice ∧
      Coupled stores manager ticket call thrown job.stage own pending := by
  cases paired with
  | @taken _ job _ _ _ notice coupled => exact ⟨job, rfl, notice, coupled⟩

end Paired

/-! ### Both sides of a run -/

variable [DecidableEq Client]

variable {stores : ρ → Program.Handler StoreInterface σ} {manager : Manager}
  {start live next last : Live Client σ}
  {seen : List (Seen Client ρ σ)}
  {made : Option (Pool.Move String × List LogEvent)}
  {event : Event (Client ⊕ Nat) ρ σ}

/-- What the pool does is a run of the pool. -/
theorem plays_of_trace (trace : Trace (Step stores manager) start seen last) :
    Plays Pool.advance? start.pool (poolHistory seen) last.pool := by
  induction trace with
  | stay => exact .stay
  | step trace step ih =>
      rw [poolHistory_append]
      cases step with
      | handIn call made => exact .move ih made
      | apart _ made => exact .move ih made
      | take _ made => exact .move ih made
      | comeOut _ _ made => exact .move ih made
      | turn =>
          rw [Option.toList_none, List.append_nil]
          exact ih

theorem Step.isTurn (step : Step stores manager live (made, some event) next) :
    System.Turn stores manager live.system event next.system := by
  cases step with
  | take _ _ turn => exact turn
  | turn turn => exact turn
  | comeOut turn => exact turn

theorem Step.of_discard {ticket : Nat} {logged : List LogEvent}
    {seen : Option (Event (Client ⊕ Nat) ρ σ)}
    (step : Step stores manager live
      (some (.job ticket .discard, logged), seen) next) :
    seen = none ∧ next.system = live.system := by
  generalize made : ((some (.job ticket .discard, logged), seen) :
    Seen Client ρ σ) = piece at step
  cases step with
  | apart =>
      cases made
      exact ⟨rfl, rfl⟩
  | handIn | take | turn => cases made
  | @comeOut _ _ _ _ outcome =>
      cases outcome with
      | none | some => cases made

theorem Step.of_touched {client : Client ⊕ Nat} {choice : ρ}
    {request : StoreCall} {first second : σ}
    (step : Step stores manager live
      (made, some (.touched client choice request first second)) next) :
    made = none ∧ live.system.store = first ∧ next.system.store = second := by
  refine ⟨?_, step.isTurn.touched⟩
  cases step with
  | turn => rfl
  | comeOut _ ends => cases ends

/-- What callers and tasks do is a run of clients of the manager. -/
theorem turns_of_trace (trace : Trace (Step stores manager) start seen last) :
    Trace (System.Turn stores manager) start.system (systemEvents seen)
      last.system := by
  induction trace with
  | stay => exact .stay
  | @step seen middle last piece trace step ih =>
      rw [systemEvents_append]
      obtain ⟨made, event⟩ := piece
      cases event with
      | some event => exact .step ih step.isTurn
      | none =>
          rw [Option.toList_none, List.append_nil]
          cases step with
          | handIn | apart => exact ih

/-! ### What every run keeps -/

namespace Coupled

variable {ticket : Nat} {call : DeferredCall} {thrown : Bool}
  {stage : Stage String} {own : List (Event (Client ⊕ Nat) ρ σ)}
  {pending : Option Pending} {before after : System (Client ⊕ Nat) σ}

theorem turn
    (coupled : Coupled stores manager ticket call thrown stage own
      (before.pending (.inr ticket)))
    (turn : System.Turn stores manager before event after)
    (mine : event.client = .inr ticket)
    (unbound : ¬ event.Bounds (.inr ticket)) :
    Coupled stores manager ticket call thrown stage (own ++ [event])
      (after.pending (.inr ticket)) := by
  cases here : before.pending (.inr ticket) with
  | none =>
      obtain ⟨operation, began⟩ := turn.of_idle (mine ▸ here)
      rw [began, mine] at unbound
      exact absurd rfl unbound
  | some present =>
      rw [here] at coupled
      cases coupled with
      | @running own rest course =>
          obtain ⟨choice, same, left⟩ := turn.of_pending (mine ▸ here)
          rw [mine, call.advance_pending] at same left
          cases rest with
          | done value =>
              rw [same] at unbound
              exact (unbound (call.bounds_ending ticket (some value))).elim
          | abort =>
              rw [same] at unbound
              exact (unbound (call.bounds_ending ticket none)).elim
          | emit signal rest =>
              rw [left, same]
              exact .running course.emit
          | call request next =>
              rw [left, same]
              exact .running (course.touch choice before.store)

theorem take
    (coupled : Coupled stores manager ticket call thrown stage own
      (before.pending (.inr ticket)))
    {job next : Job String} {logged : List LogEvent} (same : job.stage = stage)
    (step : job.Step .take next logged)
    (turn : System.Turn stores manager before
      (.started (.inr ticket) call.task) after) :
    Coupled stores manager ticket call thrown next.stage
      (own ++ [.started (.inr ticket) call.task])
      (after.pending (.inr ticket)) := by
  obtain ⟨idle, began⟩ := turn.started
  cases step with
  | take here =>
      cases same.symm.trans here
      rw [idle] at coupled
      rw [began, ← call.pending_direct manager]
      cases coupled with
      | queued => exact .running .stay
      | discarded came => cases came
      | ended came => cases came

theorem comeOut
    (coupled : Coupled stores manager ticket call thrown stage own
      (before.pending (.inr ticket)))
    (turn : System.Turn stores manager before event after)
    {outcome : Option (Except Failure String)}
    (ends : event.comesOut? = some (ticket, outcome)) {later : Stage String}
    (came : later.outcome? = some outcome) :
    Coupled stores manager ticket call thrown later (own ++ [event])
      (after.pending (.inr ticket)) := by
  have mine := Event.client_of_comesOut ends
  cases here : before.pending (.inr ticket) with
  | none =>
      obtain ⟨operation, began⟩ := turn.of_idle (mine ▸ here)
      rw [began] at ends
      cases ends
  | some present =>
      rw [here] at coupled
      cases coupled with
      | @running own rest course =>
          obtain ⟨choice, same, left⟩ := turn.of_pending (mine ▸ here)
          rw [mine, call.advance_pending] at same left
          cases rest with
          | done value =>
              rw [same, call.comesOut_ending] at ends
              cases ends
              rw [left, same]
              exact .ended came course
          | abort =>
              rw [same, call.comesOut_ending] at ends
              cases ends
              rw [left, same]
              exact .ended came course
          | emit signal rest =>
              rw [same] at ends
              cases ends
          | call request next =>
              rw [same] at ends
              cases ends

end Coupled

def Kept (stores : ρ → Program.Handler StoreInterface σ) (manager : Manager)
    (seen : List (Seen Client ρ σ))
    (live : Live Client σ) (ticket : Nat) : Prop :=
  Paired stores manager ticket live.calls[ticket]? live.pool.jobs[ticket]?
    (wasDiscarded (Pool.historyOf ticket (poolHistory seen)))
    (System.ownEvents (.inr ticket) (systemEvents seen))
    (live.system.pending (.inr ticket))

namespace Kept

variable {ticket : Nat} {piece : Seen Client ρ σ}

theorem ownEvents_pass (unseen : ∀ event ∈ piece.2, event.client ≠ .inr ticket) :
    System.ownEvents (.inr ticket) (systemEvents (seen ++ [piece])) =
      System.ownEvents (.inr ticket) (systemEvents seen) := by
  obtain ⟨made, event⟩ := piece
  rw [systemEvents_append]
  cases event with
  | none => rw [Option.toList_none, List.append_nil]
  | some event =>
      rw [Option.toList_some, System.ownEvents_append,
        System.ownEvents_other (unseen event rfl), List.append_nil]

/-- A step that has nothing to do with a place. -/
theorem pass (kept : Kept stores manager seen live ticket)
    (call : next.calls[ticket]? = live.calls[ticket]?)
    (job : next.pool.jobs[ticket]? = live.pool.jobs[ticket]?)
    (pending : next.system.pending (.inr ticket) =
      live.system.pending (.inr ticket))
    (unmoved : ∀ made ∈ piece.1, Pool.Move.on? ticket made = none)
    (unseen : ∀ event ∈ piece.2, event.client ≠ .inr ticket) :
    Kept stores manager (seen ++ [piece]) next ticket := by
  rw [Kept, call, job, pending, historyOf_pass unmoved, ownEvents_pass unseen]
  exact kept

theorem length_calls (kept : ∀ ticket, Kept stores manager seen live ticket) :
    live.calls.length = live.pool.jobs.length := by
  apply Nat.le_antisymm
  · exact List.getElem?_eq_none_iff.1
      ((kept _).none_iff.2 (List.getElem?_eq_none (Nat.le_refl _)))
  · exact List.getElem?_eq_none_iff.1
      ((kept _).none_iff.1 (List.getElem?_eq_none (Nat.le_refl _)))

theorem of_call (kept : Kept stores manager seen live ticket)
    {call : DeferredCall} (here : live.calls[ticket]? = some call) :
    ∃ job, live.pool.jobs[ticket]? = some job ∧ job.notice = call.notice ∧
      Coupled stores manager ticket call
        (wasDiscarded (Pool.historyOf ticket (poolHistory seen))) job.stage
        (System.ownEvents (.inr ticket) (systemEvents seen))
        (live.system.pending (.inr ticket)) := by
  rw [Kept, here] at kept
  exact kept.of_some

theorem of_job (kept : Kept stores manager seen live ticket) {job : Job String}
    (here : live.pool.jobs[ticket]? = some job) :
    ∃ call, live.calls[ticket]? = some call ∧ job.notice = call.notice ∧
      Coupled stores manager ticket call
        (wasDiscarded (Pool.historyOf ticket (poolHistory seen))) job.stage
        (System.ownEvents (.inr ticket) (systemEvents seen))
        (live.system.pending (.inr ticket)) := by
  cases handedIn : live.calls[ticket]? with
  | none => cases here.symm.trans (kept.none_iff.1 handedIn)
  | some call =>
      obtain ⟨present, there, notice, coupled⟩ := kept.of_call handedIn
      cases here.symm.trans there
      exact ⟨call, rfl, notice, coupled⟩

/-- A step by which a job makes a move keeps every place in order if it keeps
that of the job. -/
theorem moved (kept : ∀ ticket, Kept stores manager seen live ticket)
    (next : Live Client σ) {move : Job.Move String} {logged : List LogEvent}
    (made : live.pool.advance? (.job ticket move) = some (next.pool, logged))
    (calls : next.calls = live.calls)
    (pending : ∀ other, other ≠ .inr ticket → next.system.pending other =
      live.system.pending other)
    {event : Option (Event (Client ⊕ Nat) ρ σ)}
    (own : ∀ seen ∈ event, seen.client = .inr ticket)
    (goesOn : ∀ (call : DeferredCall) (job after : Job String),
      live.calls[ticket]? = some call →
      job.Step move after logged →
      Coupled stores manager ticket call
        (wasDiscarded (Pool.historyOf ticket (poolHistory seen))) job.stage
        (System.ownEvents (.inr ticket) (systemEvents seen))
        (live.system.pending (.inr ticket)) →
      Coupled stores manager ticket call
        (move.isDiscard || wasDiscarded
          (Pool.historyOf ticket (poolHistory seen)))
        after.stage (System.ownEvents (.inr ticket) (systemEvents seen)
          ++ event.toList)
        (next.system.pending (.inr ticket))) (other : Nat) :
    Kept stores manager (seen ++ [(some (.job ticket move, logged), event)])
      next other := by
  obtain ⟨job, after, here, advanced, jobs⟩ := Pool.of_advance?_job made
  by_cases same : ticket = other
  · subst same
    obtain ⟨call, handedIn, notice, coupled⟩ := (kept ticket).of_job here
    have step := Job.step_of_advance? advanced
    have there : next.pool.jobs[ticket]? = some after := by
      rw [jobs, List.getElem?_set_self (List.getElem?_eq_some_iff.1 here).1]
    have thrown :
        wasDiscarded (Pool.historyOf ticket
          (poolHistory (seen ++ [(some (.job ticket move, logged), event)]))) =
        (move.isDiscard || wasDiscarded
          (Pool.historyOf ticket (poolHistory seen))) := by
      rw [poolHistory_append, Option.toList_some, Pool.historyOf_append,
        Pool.Move.on?, if_pos rfl, wasDiscarded, List.any_append, Bool.or_comm]
      simp [wasDiscarded]
    have events : System.ownEvents (.inr ticket)
        (systemEvents (seen ++ [(some (.job ticket move, logged), event)])) =
        System.ownEvents (.inr ticket) (systemEvents seen) ++ event.toList := by
      rw [systemEvents_append, System.ownEvents_append]
      cases event with
      | none => rfl
      | some event =>
          rw [Option.toList_some, System.ownEvents_same (own event rfl)]
    rw [Kept, calls, handedIn, there, thrown, events]
    exact .taken (step.notice_eq.trans notice)
      (goesOn call job after handedIn step coupled)
  · refine (kept other).pass (by rw [calls])
      ?_ (pending _ fun inr => same (Sum.inr.inj inr).symm) ?_ ?_
    · rw [jobs, List.getElem?_set_ne same]
    · intro entry member
      cases member
      exact if_neg same
    · intro event member isOther
      exact same (Sum.inr.inj ((own event member).symm.trans isOther))

theorem handIn (kept : ∀ ticket, Kept stores manager seen live ticket)
    {pool : Pool String} {logged : List LogEvent}
    {call : DeferredCall}
    (made : live.pool.advance? (.add call.notice) = some (pool, logged))
    (ticket : Nat) :
    Kept stores manager (seen ++ [(some (.add call.notice, logged), none)])
      { live with pool, calls := live.calls ++ [call] } ticket := by
  obtain ⟨jobs, _⟩ := Pool.of_advance?_add made
  have unmoved : ∀ made ∈ (some (.add call.notice, logged) :
      Option (Pool.Move String × List LogEvent)),
      Pool.Move.on? ticket made = none := by
    intro made member
    cases member
    rfl
  have unseen : ∀ event ∈ (none : Option (Event (Client ⊕ Nat) ρ σ)),
      event.client ≠ .inr ticket := by
    intro event member
    cases member
  by_cases new : ticket = live.calls.length
  · have before := kept ticket
    rw [Kept, List.getElem?_eq_none (Nat.le_of_eq new.symm)] at before
    obtain ⟨unthrown, still, idle⟩ := before.of_none
    have handedIn : (live.calls ++ [call])[ticket]? = some call := by
      rw [new, List.getElem?_concat_length]
    have fresh : pool.jobs[ticket]? = some (.fresh call.notice) := by
      rw [jobs, new, length_calls kept, List.getElem?_concat_length]
    rw [Kept, historyOf_pass unmoved, ownEvents_pass unseen, handedIn, fresh,
      unthrown, still, idle]
    exact .taken rfl .queued
  · refine (kept ticket).pass ?_ ?_ rfl unmoved unseen
    · grind
    · have same := length_calls kept
      grind

theorem turn (kept : Kept stores manager seen live ticket)
    {system : System (Client ⊕ Nat) σ}
    (turn : System.Turn stores manager live.system event system)
    (unbound : ¬ event.Bounds (.inr ticket)) :
    Kept stores manager (seen ++ [(none, some event)])
      { live with system } ticket := by
  have unmoved : ∀ made ∈ (none : Option (Pool.Move String × List LogEvent)),
      Pool.Move.on? ticket made = none := by
    intro made member
    cases member
  by_cases mine : event.client = .inr ticket
  · cases handedIn : live.calls[ticket]? with
    | none =>
        rw [Kept, handedIn] at kept
        obtain ⟨_, _, idle⟩ := kept.of_none
        obtain ⟨operation, began⟩ := turn.of_idle (mine ▸ idle)
        rw [began, mine] at unbound
        exact absurd rfl unbound
    | some call =>
        obtain ⟨job, here, notice, coupled⟩ := kept.of_call handedIn
        rw [Kept, historyOf_pass unmoved, systemEvents_append,
          System.ownEvents_append, Option.toList_some,
          System.ownEvents_same mine, handedIn, here]
        exact .taken notice (coupled.turn turn mine unbound)
  · refine kept.pass rfl rfl (turn.pending_other (Ne.symm mine)) unmoved ?_
    intro seen member
    cases member
    exact mine

theorem step (kept : ∀ ticket, Kept stores manager seen live ticket)
    (step : Step stores manager live piece next)
    (ticket : Nat) : Kept stores manager (seen ++ [piece]) next ticket := by
  cases step with
  | @handIn pool logged call made => exact handIn kept made ticket
  | @apart pool move logged apart made =>
      cases move with
      | add => cases apart
      | shutDown =>
          obtain ⟨jobs, _⟩ := Pool.of_advance?_shutDown made
          refine (kept ticket).pass rfl (congrArg (·[ticket]?) jobs) rfl ?_ ?_
          · intro entry member
            cases member
            rfl
          · intro event member
            cases member
      | job own move =>
          refine moved kept { live with pool } made rfl
            (fun _ _ => rfl) ?_ ?_ ticket
          · intro event member
            cases member
          · intro call job after _ step coupled
            rw [Option.toList_none, List.append_nil]
            exact coupled.apart step apart
  | @take pool system own call logged here made turn =>
      refine moved kept { live with pool, system } made rfl
        (fun other different => turn.pending_other different) ?_ ?_
        ticket
      · intro event member
        cases member
        rfl
      · intro other job after there step coupled
        cases here.symm.trans there
        exact coupled.take rfl step turn
  | turn turn unbound => exact (kept ticket).turn turn (unbound ticket)
  | @comeOut pool system event own outcome logged turn ends made =>
      have mine := Event.client_of_comesOut ends
      refine moved kept { live with pool, system } made rfl
        (fun other different => turn.pending_other (mine ▸ different))
        ?_ ?_ ticket
      · intro seen member
        cases member
        exact mine
      · intro call job after there step coupled
        cases outcome with
        | none =>
            cases step with
            | breakOff => exact coupled.comeOut turn ends rfl
        | some value =>
            cases step with
            | yield => exact coupled.comeOut turn ends rfl

theorem of_trace (trace : Trace (Step stores manager) start seen live)
    (fresh : start.pool.jobs = [])
    (uncalled : start.calls = [])
    (idle : ∀ client, start.system.pending client = none) (ticket : Nat) :
    Kept stores manager seen live ticket := by
  induction trace generalizing ticket with
  | stay =>
      rw [Kept, fresh, uncalled, idle]
      exact .free
  | step trace made ih => exact step ih made ticket

end Kept

end Live

end BoundKey
