import BoundKey.Proofs.Pool.Live

set_option autoImplicit false

/-!
Nobody waits in vain. Wherever a pool and a manager have got to, every operation
that was handed in can be brought to its end by steps of its own job and task
alone: a job that waits can be taken, a task on its way has always a next turn
and only finitely many of them, and once it has come out the closure gets to its
end.
-/

namespace BoundKey

theorem Job.Step.of_decided {job next : Job String} {move : Job.Move String}
    {logged : List LogEvent} (step : job.Step move next logged)
    {outcome : Option (Except Failure String)}
    (decided : job.stage.outcome? = some outcome) (ticket : Nat) :
    (Pool.Move.job ticket move).isApart = true ∧
      next.stage.outcome? = some outcome := by
  cases step with
  | take here | yield _ here | breakOff here | discard here =>
      rw [here] at decided
      cases decided
  | answer breaksOff here owed =>
      rw [here] at decided
      cases breaksOff with
      | true | false => exact ⟨rfl, decided⟩
  | send here | leaveOwing here | leave here =>
      rw [here] at decided
      exact ⟨rfl, decided⟩
  | drop | wait => exact ⟨rfl, decided⟩

theorem Job.advance?_ofOutcome {job : Job String} (running : job.stage = .running)
    (outcome : Option (Except Failure String)) :
    ∃ next, job.advance? (.ofOutcome outcome) = some (next, []) ∧
      next.stage.outcome? = some outcome := by
  unfold Job.advance?
  rw [running]
  cases outcome with
  | none | some => exact ⟨_, rfl, rfl⟩

namespace Live

variable {Client ρ σ : Type}

inductive Seen.IsOf (ticket : Nat) : Seen Client ρ σ → Prop where
  | job (move : Job.Move String) (logged : List LogEvent) :
    IsOf ticket (some (.job ticket move, logged), none)
  | task {event : Event (Client ⊕ Nat) ρ σ} (own : event.client = .inr ticket) :
    IsOf ticket (none, some event)
  | both {event : Event (Client ⊕ Nat) ρ σ} (move : Job.Move String)
      (logged : List LogEvent) (own : event.client = .inr ticket) :
      IsOf ticket (some (.job ticket move, logged), some event)

variable [DecidableEq Client] {stores : ρ → Program.Handler StoreInterface σ}
  {manager : Manager} {start live next last : Live Client σ}
  {seen more : List (Seen Client ρ σ)} {piece : Seen Client ρ σ} {ticket : Nat}
  {call : DeferredCall} {job : Job String}

/-- The job with a ticket gets to its end by steps of its own. -/
def CanEnd (stores : ρ → Program.Handler StoreInterface σ) (manager : Manager)
    (live : Live Client σ) (ticket : Nat) : Prop :=
  ∃ (more : List (Seen Client ρ σ)) (last : Live Client σ) (job : Job String)
    (outcome : Option (Except Failure String)),
    Trace (Step stores manager) live more last ∧
      (∀ piece ∈ more, Seen.IsOf ticket piece) ∧
    last.pool.jobs[ticket]? = some job ∧ job.stage = .ended outcome

namespace CanEnd

theorem after (trace : Trace (Step stores manager) live more next)
    (own : ∀ piece ∈ more, Seen.IsOf ticket piece)
    (canEnd : CanEnd stores manager next ticket) :
    CanEnd stores manager live ticket := by
  obtain ⟨others, last, job, outcome, later, alsoOwn, here, isOver⟩ := canEnd
  exact ⟨more ++ others, last, job, outcome, trace.trans later,
    List.forall_mem_append.2 ⟨own, alsoOwn⟩, here, isOver⟩

theorem afterStep (step : Step stores manager live piece next)
    (own : Seen.IsOf ticket piece)
    (canEnd : CanEnd stores manager next ticket) :
    CanEnd stores manager live ticket :=
  after (.step .stay step) (List.forall_mem_singleton.2 own) canEnd

theorem of_plays {last : Job String}
    {history : List (Job.Move String × List LogEvent)}
    {outcome : Option (Except Failure String)}
    (here : live.pool.jobs[ticket]? = some job)
    (decided : job.stage.outcome? = some outcome)
    (plays : Plays Job.advance? job history last) :
    ∃ (more : List (Seen Client ρ σ)) (next : Live Client σ),
      Trace (Step stores manager) live more next ∧
      (∀ piece ∈ more, Seen.IsOf ticket piece) ∧
      next.pool.jobs[ticket]? = some last ∧
      last.stage.outcome? = some outcome := by
  induction plays with
  | stay => exact ⟨[], live, .stay, List.forall_mem_nil _, here, decided⟩
  | @move history middle last move logged plays made ih =>
      obtain ⟨more, next, trace, own, there, still⟩ := ih
      obtain ⟨apart, kept⟩ := (Job.step_of_advance? made).of_decided still ticket
      refine ⟨_, _, .step trace (.apart apart (Pool.advance?_job there made)),
        ?_, ?_, kept⟩
      · exact List.forall_mem_append.2
          ⟨own, List.forall_mem_singleton.2 (.job move logged)⟩
      · exact List.getElem?_set_self (List.getElem?_eq_some_iff.1 there).1

theorem of_decided (trace : Trace (Step stores manager) start seen live)
    (fresh : start.pool.jobs = [])
    (here : live.pool.jobs[ticket]? = some job)
    {outcome : Option (Except Failure String)}
    (decided : job.stage.outcome? = some outcome) :
    CanEnd stores manager live ticket := by
  have sound := Job.sound_of_plays
    ((Pool.apart_of_plays fresh (plays_of_trace trace)).job ticket job here)
  obtain ⟨history, last, plays, isOver, _⟩ := sound.plays_ended decided
  obtain ⟨more, next, later, own, there, _⟩ := of_plays here decided plays
  exact ⟨more, next, last, outcome, later, own, there, isOver⟩

theorem of_comesOut (trace : Trace (Step stores manager) start seen live)
    (fresh : start.pool.jobs = [])
    (here : live.pool.jobs[ticket]? = some job) (running : job.stage = .running)
    {system : System (Client ⊕ Nat) σ}
    {event : Event (Client ⊕ Nat) ρ σ}
    (turn : System.Turn stores manager live.system event system)
    {outcome : Option (Except Failure String)}
    (ends : event.comesOut? = some (ticket, outcome)) :
    CanEnd stores manager live ticket := by
  obtain ⟨next, made, decided⟩ := Job.advance?_ofOutcome running outcome
  have step := Step.comeOut turn ends (Pool.advance?_job here made)
  have there : (live.pool.jobs.set ticket next)[ticket]? = some next :=
    List.getElem?_set_self (List.getElem?_eq_some_iff.1 here).1
  exact afterStep step (.both _ _ (Event.client_of_comesOut ends))
    (of_decided (trace.step step) fresh there decided)

/-- A task on its way takes its turns until it comes out. -/
theorem of_running
    (choice : ρ) (trace : Trace (Step stores manager) start seen live)
    (fresh : start.pool.jobs = [])
    (here : live.pool.jobs[ticket]? = some job) (running : job.stage = .running)
    {rest : Program StoreInterface (Except Failure String)}
    (onTheWay : live.system.pending (.inr ticket) = some (call.pending rest)) :
    CanEnd stores manager live ticket := by
  induction rest generalizing live seen with
  | done value =>
      have turn : System.Turn stores manager live.system _ _ :=
        .goOn choice onTheWay
      rw [call.advance_pending] at turn
      exact of_comesOut trace fresh here running turn
        (call.comesOut_ending ticket (some value))
  | abort =>
      have turn : System.Turn stores manager live.system _ _ :=
        .goOn choice onTheWay
      rw [call.advance_pending] at turn
      exact of_comesOut trace fresh here running turn
        (call.comesOut_ending ticket none)
  | emit signal rest ih =>
      have turn : System.Turn stores manager live.system _ _ :=
        .goOn choice onTheWay
      rw [call.advance_pending] at turn
      have step := Step.turn turn fun _ => id
      exact afterStep step (.task rfl)
        (ih (trace.step step) here (System.put_same _ _ _))
  | call request next ih =>
      have turn : System.Turn stores manager live.system _ _ :=
        .goOn choice onTheWay
      rw [call.advance_pending] at turn
      have step := Step.turn turn fun _ => id
      exact afterStep step (.task rfl)
        (ih _ (trace.step step) here (System.put_same _ _ _))

theorem of_queued
    (choice : ρ) (trace : Trace (Step stores manager) start seen live)
    (fresh : start.pool.jobs = [])
    (handedIn : live.calls[ticket]? = some call)
    (here : live.pool.jobs[ticket]? = some job)
    (queued : job.stage = .queued)
    (idle : live.system.pending (.inr ticket) = none) :
    CanEnd stores manager live ticket := by
  have made : job.advance? .take = some ({ job with stage := .running }, []) := by
    unfold Job.advance?
    rw [queued]
  have step : Step stores manager live _ _ :=
    .take handedIn (Pool.advance?_job here made) (.start call.task idle)
  have there :
      (live.pool.jobs.set ticket { job with stage := .running })[ticket]? =
      some { job with stage := .running } :=
    List.getElem?_set_self (List.getElem?_eq_some_iff.1 here).1
  have began :
      (live.system.put (.inr ticket)
        (some ⟨call.task, call.task.program manager⟩)).pending (.inr ticket) =
      some (call.pending (call.direct manager)) := by
    rw [System.put_same, call.pending_direct]
  exact afterStep step (.both _ _ rfl)
    (of_running choice (trace.step step) fresh there rfl began)

/-- So every operation that was handed in can be brought to its end. -/
theorem of_trace
    (choice : ρ) (trace : Trace (Step stores manager) start seen live)
    (fresh : start.pool.jobs = [])
    (uncalled : start.calls = [])
    (idle : ∀ client, start.system.pending client = none)
    (handedIn : live.calls[ticket]? = some call) :
    CanEnd stores manager live ticket := by
  obtain ⟨job, here, _, coupled⟩ :=
    (Kept.of_trace trace fresh uncalled idle ticket).of_call handedIn
  cases stage : job.stage with
  | queued =>
      rw [stage] at coupled
      exact of_queued choice trace fresh handedIn here stage coupled.of_queued
  | running =>
      rw [stage] at coupled
      obtain ⟨rest, onTheWay⟩ := coupled.of_running
      exact of_running choice trace fresh here stage onTheWay
  | returned | leaving | ended =>
      exact of_decided trace fresh here (congrArg Stage.outcome? stage)

end CanEnd

end Live

end BoundKey
