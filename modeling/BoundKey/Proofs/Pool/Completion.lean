import BoundKey.Pool.Workload
import BoundKey.Proofs.Pool.Job

set_option autoImplicit false

/-!
Every job of a pool completes exactly once. The moves of a pool are taken apart
by tickets: what is done to one job is a run of that job alone, since no move
touches another job, so what is kept by the runs of a single job holds of every
job of the pool, whatever happens to the others and whenever the pool goes down.
-/

namespace BoundKey

variable {α : Type}

namespace Pool

/-- What a move of a pool does to the job with a ticket, and what is logged
then. -/
def Move.on? (ticket : Nat) (made : Move α × List LogEvent) :
    Option (Job.Move α × List LogEvent) :=
  match made with
  | (.job own move, logged) => if own = ticket then some (move, logged) else none
  | _ => none

theorem Move.of_on? {ticket : Nat} {made : Move α × List LogEvent}
    {move : Job.Move α} {logged : List LogEvent}
    (own : Move.on? ticket made = some (move, logged)) :
    made = (.job ticket move, logged) := by
  rw [Move.on?.eq_def] at own
  split at own
  · split at own
    · next same =>
        cases own
        rw [same]
    · cases own
  · cases own

def historyOf (ticket : Nat) (history : List (Move α × List LogEvent)) :
    List (Job.Move α × List LogEvent) :=
  history.filterMap (Move.on? ticket)

/-! ### One move -/

theorem advance?_job {pool : Pool α} {ticket : Nat} {job next : Job α}
    {move : Job.Move α} {logged : List LogEvent}
    (here : pool.jobs[ticket]? = some job)
    (made : job.advance? move = some (next, logged)) :
    pool.advance? (.job ticket move) =
      some ({ pool with jobs := pool.jobs.set ticket next }, logged) := by
  rw [advance?, here]
  change (job.advance? move).map _ = _
  rw [made]
  rfl

theorem of_advance?_job {pool last : Pool α} {ticket : Nat} {move : Job.Move α}
    {logged : List LogEvent}
    (made : pool.advance? (.job ticket move) = some (last, logged)) :
    ∃ job next, pool.jobs[ticket]? = some job ∧
      job.advance? move = some (next, logged) ∧
      last.jobs = pool.jobs.set ticket next := by
  obtain ⟨job, here, rest⟩ := Option.bind_eq_some_iff.1 made
  obtain ⟨⟨next, events⟩, advanced, same⟩ := Option.map_eq_some_iff.1 rest
  cases same
  exact ⟨job, next, here, advanced, rfl⟩

theorem of_advance?_add {pool last : Pool α} {notice : Notice}
    {logged : List LogEvent}
    (made : pool.advance? (.add notice) = some (last, logged)) :
    last.jobs = pool.jobs ++ [.fresh notice] ∧ logged = [] := by
  rw [advance?] at made
  split at made
  · cases made
  · cases made
    exact ⟨rfl, rfl⟩

theorem of_advance?_shutDown {pool last : Pool α} {logged : List LogEvent}
    (made : pool.advance? .shutDown = some (last, logged)) :
    last.jobs = pool.jobs ∧ logged = [.poolShuttingDown pool.size] := by
  rw [advance?] at made
  split at made
  · cases made
  · cases made
    exact ⟨rfl, rfl⟩

/-! ### Many moves -/

/-- The jobs of a pool so far have each been run on their own, and nothing has
been done to any other. -/
structure Apart (history : List (Move α × List LogEvent)) (pool : Pool α) :
    Prop where
  job : ∀ ticket job, pool.jobs[ticket]? = some job →
    Plays Job.advance? (.fresh job.notice) (historyOf ticket history) job
  none : ∀ ticket, pool.jobs[ticket]? = none → historyOf ticket history = []

theorem historyOf_append (ticket : Nat)
    (history : List (Move α × List LogEvent)) (made : Move α × List LogEvent) :
    historyOf ticket (history ++ [made]) =
      historyOf ticket history ++ (Move.on? ticket made).toList := by
  rw [historyOf, List.filterMap_append, historyOf]
  cases touched : Move.on? ticket made with
  | none => rw [List.filterMap_cons_none touched]; rfl
  | some own => rw [List.filterMap_cons_some touched]; rfl

theorem Apart.untouched {history : List (Move α × List LogEvent)}
    {pool last : Pool α} (apart : Apart history pool)
    {made : Move α × List LogEvent} {ticket : Nat}
    (other : Move.on? ticket made = .none)
    (same : last.jobs[ticket]? = pool.jobs[ticket]?) :
    (∀ job, last.jobs[ticket]? = some job →
      Plays Job.advance? (.fresh job.notice)
        (historyOf ticket (history ++ [made])) job) ∧
    (last.jobs[ticket]? = .none → historyOf ticket (history ++ [made]) = []) := by
  rw [historyOf_append, other, Option.toList_none, List.append_nil, same]
  exact ⟨apart.job ticket, apart.none ticket⟩

theorem Apart.advance {history : List (Move α × List LogEvent)}
    {pool last : Pool α} (apart : Apart history pool)
    {move : Move α} {logged : List LogEvent}
    (made : pool.advance? move = some (last, logged)) :
    Apart (history ++ [(move, logged)]) last := by
  -- For each ticket, the move hands in its job, is one of its job, or has
  -- nothing to do with it.
  have each (ticket : Nat) :
      (∀ job, last.jobs[ticket]? = some job →
        Plays Job.advance? (.fresh job.notice)
          (historyOf ticket (history ++ [(move, logged)])) job) ∧
      (last.jobs[ticket]? = .none →
        historyOf ticket (history ++ [(move, logged)]) = []) := by
    cases move with
    | add notice =>
        obtain ⟨jobs, _⟩ := of_advance?_add made
        by_cases new : ticket = pool.jobs.length
        · have before :=
            apart.none ticket (List.getElem?_eq_none (Nat.le_of_eq new.symm))
          have here : last.jobs[ticket]? = some (.fresh notice) := by
            rw [jobs, new, List.getElem?_concat_length]
          rw [historyOf_append, before, here]
          refine ⟨?_, nofun⟩
          intro job same
          cases same
          exact .stay
        · apply apart.untouched rfl
          rw [jobs, List.getElem?_append]
          split
          · rfl
          · next beyond =>
              rw [List.getElem?_eq_none (Nat.not_lt.1 beyond),
                List.getElem?_eq_none]
              rw [List.length_singleton]
              omega
    | shutDown =>
        obtain ⟨jobs, _⟩ := of_advance?_shutDown made
        exact apart.untouched rfl (by rw [jobs])
    | job own move =>
        obtain ⟨job, next, here, advanced, jobs⟩ := of_advance?_job made
        by_cases same : own = ticket
        · subst same
          have after : last.jobs[own]? = some next := by
            rw [jobs, List.getElem?_set_self (List.getElem?_eq_some_iff.1 here).1]
          have kept : next.notice = job.notice :=
            (Job.step_of_advance? advanced).notice_eq
          rw [historyOf_append, Move.on?, if_pos rfl, after]
          refine ⟨?_, nofun⟩
          intro last isNext
          cases isNext
          rw [kept]
          exact .move (apart.job own job here) advanced
        · have other : Move.on? ticket ((.job own move, logged) :
              Move α × List LogEvent) = .none := if_neg same
          apply apart.untouched other
          rw [jobs, List.getElem?_set_ne same]
  exact ⟨fun ticket => (each ticket).1, fun ticket => (each ticket).2⟩

theorem apart_of_plays {start pool : Pool α}
    {history : List (Move α × List LogEvent)} (empty : start.jobs = [])
    (plays : Plays advance? start history pool) : Apart history pool := by
  induction plays with
  | stay =>
      refine ⟨fun ticket job here => ?_, fun _ _ => rfl⟩
      rw [empty] at here
      cases here
  | move plays made ih => exact ih.advance made

theorem plays_job {pool : Pool α} {ticket : Nat} {job last : Job α}
    {history : List (Job.Move α × List LogEvent)}
    (here : pool.jobs[ticket]? = some job)
    (plays : Plays Job.advance? job history last) :
    ∃ after, Plays advance? pool
      (history.map fun made => (.job ticket made.1, made.2)) after ∧
      after.jobs[ticket]? = some last := by
  induction plays with
  | stay => exact ⟨pool, .stay, here⟩
  | move plays made ih =>
      obtain ⟨middle, played, there⟩ := ih
      rw [List.map_append]
      refine ⟨_, .move played (advance?_job there made), ?_⟩
      exact List.getElem?_set_self (List.getElem?_eq_some_iff.1 there).1

/-! ### Completion -/

/-- What the job with a ticket comes to in a run of its pool, and has come to so
far. -/
structure Completes (history : List (Move α × List LogEvent)) (pool : Pool α)
    (ticket : Nat) (job : Job α) : Prop where
  /-- The task comes out once: with a result, or with none because it broke off
  or was never run. -/
  comesOutOnce : (Job.outcomesIn (historyOf ticket history)).length ≤ 1
  calledOnce : job.calls.length ≤ 1
  calledBack : job.calls ≠ [] → job.notice = .callback
  /-- A callback is called with the result of its own task, or is told of the
  interruption if there is none. -/
  calledWith : ∀ answer ∈ job.calls,
    ∃ outcome ∈ Job.outcomesIn (historyOf ticket history),
      answer = Job.told outcome
  /-- That a task was dropped is logged with each call that has no result to
  tell, and with no other. -/
  logged : (historyOf ticket history).flatMap (·.2) =
    if (Job.outcomesIn (historyOf ticket history)).any (·.isNone) then
      job.calls.map fun _ => .taskDropped else []
  heard : ∀ heard, job.heard = some heard →
    Job.outcomesIn (historyOf ticket history) = [heard]
  waits : ∀ answer, pool.wait? ticket = some answer →
    ∃ outcome, Job.outcomesIn (historyOf ticket history) = [outcome] ∧
      answer = Job.told outcome
  atEnd : ∀ outcome, job.stage = .ended outcome →
    Job.outcomesIn (historyOf ticket history) = [outcome] ∧
    (job.notice = .callback → job.calls = [Job.told outcome]) ∧
    (job.notice = .handle → job.channel.receiverGone = false →
      pool.wait? ticket = some (Job.told outcome))
  /-- Once the task has come out, the job gets over by moves of its closure
  alone. -/
  goesOn : Job.outcomesIn (historyOf ticket history) ≠ [] →
    ∃ more last after, Plays advance? pool more last ∧
    last.jobs[ticket]? = some after ∧ after.stage.isOver = true ∧
    ∀ made ∈ more, ∃ move : Job.Move α, made.1 = .job ticket move ∧
      move.isOwn = true

theorem wait?_of_ended {pool : Pool α} {ticket : Nat} {job : Job α}
    {outcomes : List (Option (Except Failure α))}
    {logged : List LogEvent} (here : pool.jobs[ticket]? = some job)
    (sound : job.Sound outcomes logged)
    {outcome : Option (Except Failure α)} (isOver : job.stage = .ended outcome)
    (handle : job.notice = .handle)
    (kept : job.channel.receiverGone = false) :
    pool.wait? ticket = some (Job.told outcome) := by
  obtain ⟨next, waited, heard⟩ := sound.advance?_wait isOver handle kept
  rw [wait?, here, Option.bind_some, waited, Option.bind_some]
  dsimp only
  rw [heard]
  rfl

theorem completes_of_sound {history : List (Move α × List LogEvent)}
    {pool : Pool α} {ticket : Nat} {job : Job α}
    (here : pool.jobs[ticket]? = some job)
    (sound : job.Sound (Job.outcomesIn (historyOf ticket history))
      ((historyOf ticket history).flatMap (·.2))) :
    Completes history pool ticket job where
  comesOutOnce := by
    rw [sound.outcomes_eq]
    exact Option.length_toList_le
  calledOnce := by
    obtain ⟨uncalled, _⟩ | ⟨_, outcome, _, called, _⟩ := sound.called
    · rw [uncalled]
      exact Nat.zero_le 1
    · rw [called]
      exact Nat.le_refl 1
  calledBack some := by
    obtain ⟨uncalled, _⟩ | ⟨callback, _⟩ := sound.called
    · exact absurd uncalled some
    · exact callback
  calledWith answer member := by
    obtain ⟨uncalled, _⟩ | ⟨_, outcome, comesOut, called, _⟩ := sound.called
    · rw [uncalled] at member
      cases member
    · rw [called] at member
      exact ⟨outcome, comesOut ▸ List.mem_singleton_self outcome,
        List.mem_singleton.1 member⟩
  logged := by
    obtain ⟨uncalled, unlogged⟩ | ⟨_, outcome, comesOut, called, logged⟩ :=
      sound.called
    · rw [unlogged, uncalled, List.map_nil, ite_self]
    · rw [logged, comesOut, called]
      cases outcome with
      | none => rfl
      | some result => rfl
  heard heard told := by
    rw [sound.outcomes_eq, sound.heard heard told]
    rfl
  waits answer waited := by
    obtain ⟨holder, there, rest⟩ := Option.bind_eq_some_iff.1 waited
    cases here.symm.trans there
    obtain ⟨⟨next, more⟩, made, told⟩ := Option.bind_eq_some_iff.1 rest
    obtain ⟨heard, isHeard, same⟩ := Option.map_eq_some_iff.1 told
    have after := sound.step (Job.step_of_advance? made)
    refine ⟨heard, ?_, same.symm⟩
    have comesOut := after.outcomes_eq
    rw [after.heard heard isHeard] at comesOut
    exact (List.append_nil _).symm.trans comesOut
  atEnd outcome isOver := by
    have comesOut : Job.outcomesIn (historyOf ticket history) = [outcome] := by
      rw [sound.outcomes_eq, isOver]
      rfl
    refine ⟨comesOut, ?_, wait?_of_ended here sound isOver⟩
    intro callback
    cases owed : job.owesCall with
    | true =>
        obtain ⟨_, _, _, notOver, _⟩ := sound.owed owed
        rw [isOver] at notOver
        cases notOver
    | false =>
        obtain ⟨handle, _⟩ | ⟨_, other, decided, called, _⟩ := sound.settled owed
        · exact absurd (handle.symm.trans callback) nofun
        · rw [isOver] at decided
          cases decided
          exact called
  goesOn come := by
    rw [sound.outcomes_eq] at come
    cases decided : job.stage.outcome? with
    | none =>
        rw [decided] at come
        exact absurd rfl come
    | some outcome =>
        obtain ⟨more, after, plays, isOver, own⟩ := sound.plays_ended decided
        obtain ⟨last, played, there⟩ := plays_job here plays
        refine ⟨_, last, after, played, there, by rw [isOver]; rfl, ?_⟩
        rw [List.forall_mem_map]
        exact fun made member => ⟨made.1, rfl, own made member⟩

/-- That a task was dropped is logged only where a closure is let go of. -/
theorem eq_leave_of_logged {pool last : Pool α} {move : Move α}
    {logged : List LogEvent} (made : pool.advance? move = some (last, logged))
    (dropped : .taskDropped ∈ logged) :
    ∃ ticket, move = .job ticket .leave := by
  cases move with
  | add notice =>
      rw [(of_advance?_add made).2] at dropped
      cases dropped
  | shutDown =>
      rw [(of_advance?_shutDown made).2] at dropped
      cases dropped with
      | tail _ member => cases member
  | job ticket move =>
      obtain ⟨job, next, _, advanced, _⟩ := of_advance?_job made
      cases Job.step_of_advance? advanced with
      | leaveOwing here owed => exact ⟨ticket, rfl⟩
      | take | yield | breakOff | discard | answer | send | leave | drop
      | wait => cases dropped

/-- In every run of a pool, every job completes exactly once, and whoever was to
be told of it is told how its own task came out; that a task was dropped is
logged for those callbacks alone that are told of the interruption. -/
theorem completes_once {size : Nat} {start pool : Pool α}
    {history : List (Move α × List LogEvent)}
    (started : Pool.start size = .ok start)
    (plays : Plays advance? start history pool) :
    (∀ made ∈ history, .taskDropped ∈ made.2 →
      ∃ ticket, made.1 = .job ticket .leave) ∧
    ∀ ticket job, pool.jobs[ticket]? = some job →
      Completes history pool ticket job := by
  have empty : start.jobs = [] := by
    rw [Pool.start] at started
    split at started
    · cases started
    · cases started
      rfl
  constructor
  · clear started empty
    induction plays with
    | stay => exact nofun
    | move plays made ih =>
        rw [List.forall_mem_append, List.forall_mem_singleton]
        exact ⟨ih, eq_leave_of_logged made⟩
  · intro ticket job here
    exact completes_of_sound here
      (Job.sound_of_plays ((apart_of_plays empty plays).job ticket job here))

theorem plays_of_play? {pool last : Pool α} {moves : List (Move α)}
    {events : List LogEvent} (played : pool.play? moves = some (last, events)) :
    ∃ history, Plays advance? pool history last ∧ history.map (·.1) = moves ∧
      history.flatMap (·.2) = events := by
  induction moves generalizing pool events with
  | nil =>
      cases played
      exact ⟨[], .stay, rfl, rfl⟩
  | cons move rest ih =>
      obtain ⟨⟨next, first⟩, made, later⟩ := Option.bind_eq_some_iff.1 played
      obtain ⟨⟨final, more⟩, playedLater, same⟩ := Option.map_eq_some_iff.1 later
      cases same
      obtain ⟨history, plays, moves, events⟩ := ih playedLater
      refine ⟨(move, first) :: history,
        Plays.trans (.move .stay made) plays, ?_, ?_⟩
      · rw [List.map_cons, moves]
      · rw [List.flatMap_cons, events]

/-- The case of a pool that goes down while a job waits. The first callback
breaks off when it is called, the second task breaks off, and the third is
thrown away; that is logged for the callback of the third alone. -/
theorem completes_once_shutDown :
    ∃ (start pool : Pool Int) (history : List (Move Int × List LogEvent)),
    Pool.start 1 = .ok start ∧ Plays advance? start history pool ∧
    history.map (·.1) = [.add .callback, .job 0 .drop, .add .handle,
      .add .callback, .job 2 .drop, .job 0 .take,
      .job 0 (.yield (.ok 5)), .job 0 (.answer true), .job 0 .leave,
      .job 1 .take, .shutDown, .job 1 .breakOff,
      .job 2 .discard, .job 2 .leave, .job 1 .leave] ∧
    pool.calls 0 = [.ok 5] ∧ pool.wait? 1 =
      some (.error .interruptedWhileWaiting) ∧
    pool.calls 2 = [.error .interruptedWhileWaiting] ∧
    history.flatMap (·.2) = [.poolShuttingDown 1, .taskDropped] ∧
    ∀ ticket job, pool.jobs[ticket]? = some job →
      Completes history pool ticket job := by
  have started : Pool.start 1 = .ok (⟨1, false, []⟩ : Pool Int) := rfl
  obtain ⟨history, plays, moves, events⟩ :=
    plays_of_play? (rfl : play? (⟨1, false, []⟩ : Pool Int)
    [.add .callback, .job 0 .drop, .add .handle, .add .callback,
      .job 2 .drop, .job 0 .take, .job 0 (.yield (.ok 5)),
      .job 0 (.answer true), .job 0 .leave, .job 1 .take, .shutDown,
      .job 1 .breakOff, .job 2 .discard, .job 2 .leave, .job 1 .leave] = some _)
  obtain ⟨_, completes⟩ := completes_once started plays
  have first := (completes 0 _ rfl).atEnd (some (.ok 5)) rfl
  have second := (completes 1 _ rfl).atEnd none rfl
  have third := (completes 2 _ rfl).atEnd none rfl
  exact ⟨_, _, history, started, plays, moves, first.2.1 rfl,
    second.2.2 rfl rfl, third.2.1 rfl, events, completes⟩

end Pool

/-! ### Workloads -/

namespace Workload

/-- A workload gets to another one by moves of its pool, which log what is
logged. -/
def Leads (load : Workload) (result : Workload × List LogEvent) : Prop :=
  ∃ history, Plays Pool.advance? load.pool history result.1.pool ∧
    history.flatMap (·.2) = result.2

theorem leads_refl (load : Workload) : Leads load (load, []) :=
  ⟨[], .stay, rfl⟩

theorem Leads.trans {load next last : Workload} {events more : List LogEvent}
    (first : Leads load (next, events))
    (second : Leads next (last, more)) : Leads load (last, events ++ more) := by
  obtain ⟨early, playsEarly, loggedEarly⟩ := first
  obtain ⟨late, playsLate, loggedLate⟩ := second
  refine ⟨early ++ late, playsEarly.trans playsLate, ?_⟩
  rw [List.flatMap_append, loggedEarly, loggedLate]

theorem leads_move (load : Workload) (moves : List (Pool.Move Int)) :
    Leads load (load.move moves) := by
  rw [move]
  split
  · next pool events played =>
      obtain ⟨history, plays, _, logged⟩ := Pool.plays_of_play? played
      exact ⟨history, plays, logged⟩
  · exact leads_refl load

theorem leads_finishAll (load : Workload) (jobs : List (Nat × Task)) :
    Leads load (load.finishAll jobs) := by
  induction jobs generalizing load with
  | nil => exact leads_refl load
  | cons job others ih => exact (leads_move load _).trans (ih _)

theorem leads_proceed (limit : Nat) (load : Workload) :
    Leads load (proceed limit load) := by
  induction limit generalizing load with
  | zero => exact leads_refl load
  | succ limit ih =>
      rw [proceed]
      split
      · exact (leads_move load _).trans (ih _)
      · split
        · exact leads_refl load
        · exact (leads_finishAll load _).trans (ih _)

theorem leads_settle (load : Workload) : Leads load load.settle :=
  leads_proceed _ load

/-- Whatever is done to a workload is a run of its pool, from which the
completion of every job follows. -/
theorem leads_add (load : Workload) (notice : Notice) (task : Task) :
    Leads load (load.add notice task) := by
  have first := leads_move load (load.pool.entry notice)
  rw [add]
  generalize load.move (load.pool.entry notice) = moved at first ⊢
  have second := leads_settle { moved.1 with tasks := moved.1.tasks ++ [task] }
  exact first.trans second

theorem leads_shutdown (load : Workload) : Leads load load.shutdown :=
  (leads_move load _).trans (leads_settle _)

theorem leads_openGate (load : Workload) (gate : String) :
    Leads load (load.openGate gate) :=
  leads_settle { load with opened := gate :: load.opened }

end Workload

end BoundKey
