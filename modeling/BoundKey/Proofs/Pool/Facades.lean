import BoundKey.Proofs.Manager.Entry
import BoundKey.Proofs.Pool.Progress
import BoundKey.Store.Provisioned

set_option autoImplicit false

/-!
What the callers of deferred operations are told. The task of a job calls the
store once, so whatever others do in the meantime, it comes out as if the
operation had been run alone on the store as it was at that call; and what comes
out of a task is what its own caller is told, and nobody else.
-/

namespace BoundKey

namespace Live

variable {Client ρ σ : Type} [DecidableEq Client]
  {stores : ρ → Program.Handler StoreInterface σ} {manager : Manager}
  {start last : Live Client σ} {seen : List (Seen Client ρ σ)} {ticket : Nat}
  {call : DeferredCall}

/-- How the task of a job came out. -/
inductive CameOut (stores : ρ → Program.Handler StoreInterface σ)
    (manager : Manager) (start : Live Client σ)
    (seen : List (Seen Client ρ σ)) (last : Live Client σ) (ticket : Nat)
    (call : DeferredCall) : Option (Except Failure String) → Prop where
  /-- It was thrown away, by a step that left the manager as it was, and never
  did anything. -/
  | discarded {front back : List (Seen Client ρ σ)}
      {moment next : Live Client σ} {logged : List LogEvent}
      (whole :
        seen = front ++ (some (.job ticket .discard, logged), none) :: back)
      (before : Trace (Step stores manager) start front moment)
      (discard : Step stores manager moment
        ((some (.job ticket .discard, logged), none) : Seen Client ρ σ) next)
      (after : Trace (Step stores manager) next back last)
      (unmoved : next.system = moment.system)
      (still : System.ownEvents (.inr ticket) (systemEvents seen) = []) :
      CameOut stores manager start seen last ticket call none
  /-- It came out as the operation does alone on the store as it was when the
  task called it. It left the store and sent signals as the operation does then,
  and did nothing else. -/
  | ran {outcome : Option (Except Failure String)}
      {front back : List (Seen Client ρ σ)} {moment next : Live Client σ}
      {choice : ρ} {request : StoreCall} (early late : List Signal)
      (taken : wasDiscarded (Pool.historyOf ticket (poolHistory seen)) = false)
      (whole : seen = front ++
        (none, some (.touched (.inr ticket) choice request moment.system.store
          next.system.store)) :: back)
      (before : Trace (Step stores manager) start front moment)
      (touch : Step stores manager moment
        (none, some (.touched (.inr ticket) choice request moment.system.store
          next.system.store)) next)
      (after : Trace (Step stores manager) next back last)
      (own : System.ownEvents (.inr ticket) (systemEvents seen) =
        .started (.inr ticket) call.task ::
        (early.map (.emitted (.inr ticket)) ++
          .touched (.inr ticket) choice request moment.system.store
            next.system.store :: late.map (.emitted (.inr ticket)))
            ++ [call.ending ticket outcome])
      (alone : Program.run (stores choice) moment.system.store
        (call.direct manager) = (outcome, next.system.store,
        early ++ (stores choice moment.system.store request).2.2 ++ late)) :
      CameOut stores manager start seen last ticket call outcome

namespace CameOut

theorem of_discarded (trace : Trace (Step stores manager) start seen last)
    (thrown : wasDiscarded (Pool.historyOf ticket (poolHistory seen)) = true)
    (still : System.ownEvents (.inr ticket) (systemEvents seen) = []) :
    CameOut stores manager start seen last ticket call none := by
  obtain ⟨⟨move, logged⟩, member, isDiscard⟩ := List.any_eq_true.1 thrown
  obtain ⟨made, inPool, own⟩ := List.mem_filterMap.1 member
  obtain ⟨⟨present, event⟩, inSeen, isMade⟩ := List.mem_filterMap.1 inPool
  obtain ⟨front, back, whole⟩ := List.append_of_mem inSeen
  have same : present = some (.job ticket .discard, logged) := by
    cases move with
    | discard => exact isMade.trans (congrArg some (Pool.Move.of_on? own))
    | take | yield | breakOff | answer | send | leave | drop | wait =>
        cases isDiscard
  rw [same] at whole
  obtain ⟨moment, next, before, discard, after⟩ := Trace.split (whole ▸ trace)
  obtain ⟨none, unmoved⟩ := discard.of_discard
  cases none
  exact .discarded whole before discard after unmoved still

theorem of_course (trace : Trace (Step stores manager) start seen last)
    {during : List (Event (Client ⊕ Nat) ρ σ)}
    {outcome : Option (Except Failure String)}
    (taken : wasDiscarded (Pool.historyOf ticket (poolHistory seen)) = false)
    (course : Course stores (.inr ticket) (call.direct manager) during
      (.comeOut outcome))
    (own : System.ownEvents (.inr ticket) (systemEvents seen) =
      .started (.inr ticket) call.task :: during
        ++ [call.ending ticket outcome]) :
    CameOut stores manager start seen last ticket call outcome := by
  generalize ended : Program.comeOut outcome = rest at course
  cases course.of_once (call.once_direct manager) with
  | ahead sent once =>
      subst ended
      exact absurd once (Program.not_once_comeOut outcome)
  | @settled _ early late choice request first second quiet left same =>
      have member : Event.touched (.inr ticket) choice request first second ∈
          systemEvents seen := by
        apply List.mem_of_mem_filter
        change _ ∈ System.ownEvents (.inr ticket) (systemEvents seen)
        rw [own]
        simp
      obtain ⟨⟨made, event⟩, inSeen, isEvent⟩ := List.mem_filterMap.1 member
      obtain ⟨front, back, whole⟩ := List.append_of_mem inSeen
      change event = _ at isEvent
      rw [isEvent] at whole
      obtain ⟨moment, next, before, touch, after⟩ := Trace.split (whole ▸ trace)
      obtain ⟨none, sameFirst, sameSecond⟩ := touch.of_touched
      subst none sameFirst sameSecond
      refine .ran early late taken whole before touch after own ?_
      rw [same, ← ended, Program.run_comeOut]
      simp

theorem of_kept (trace : Trace (Step stores manager) start seen last)
    (kept : Kept stores manager seen last ticket)
    {job : Job String} (handedIn : last.calls[ticket]? = some call)
    (here : last.pool.jobs[ticket]? = some job)
    {outcome : Option (Except Failure String)}
    (came : job.stage.outcome? = some outcome) :
    CameOut stores manager start seen last ticket call outcome := by
  obtain ⟨present, there, _, coupled⟩ := kept.of_call handedIn
  cases here.symm.trans there
  rcases coupled.of_came came with ⟨thrown, isNone, still⟩ | ⟨taken,
    during, course, own⟩
  · rw [isNone]
    exact of_discarded trace thrown still
  · exact of_course trace taken course own

end CameOut

/-- In every run of a pool and a manager, whatever is done in whatever order:
every deferred operation that was handed in has a job of its own, which
completes as jobs do and can be brought to its end at any time, and its task
comes out as the operation does alone on the store as it was when the task
called it, or was thrown away and did nothing. What a service offers is what its
caller is told then. -/
theorem deferred_as_direct (trace : Trace (Step stores manager) start seen last)
    (fresh : start.pool.jobs = [])
    (uncalled : start.calls = [])
    (idle : ∀ client, start.system.pending client = none) :
    (∀ ticket call, last.calls[ticket]? = some call →
      ∃ job, last.pool.jobs[ticket]? = some job ∧
      job.notice = call.notice ∧
      Pool.Completes (poolHistory seen) last.pool ticket job ∧
      (∀ outcome ∈ Job.outcomesIn (Pool.historyOf ticket (poolHistory seen)),
        CameOut stores manager start seen last ticket call outcome) ∧
      (Nonempty ρ → CanEnd stores manager last ticket)) ∧
    ∀ (call : DeferredCall) (poolSize : Nat)
      (handler : Program.Handler StoreInterface σ) (state : σ),
      Program.run handler state (call.facade ⟨manager, poolSize⟩).run =
        let alone := Program.run handler state (call.direct manager)
        (some (Job.told alone.1), alone.2.1,
          alone.2.2 ++ if alone.1.isNone then call.dropped else []) := by
  refine ⟨?_, fun call poolSize handler state =>
    call.run_facade ⟨manager, poolSize⟩ handler state⟩
  intro ticket call handedIn
  have kept := Kept.of_trace trace fresh uncalled idle ticket
  obtain ⟨job, here, notice, _⟩ := kept.of_call handedIn
  have sound := Job.sound_of_plays
    ((Pool.apart_of_plays fresh (plays_of_trace trace)).job ticket job here)
  refine ⟨job, here, notice, Pool.completes_of_sound here sound, ?_, ?_⟩
  · intro outcome member
    rw [sound.outcomes_eq, Option.mem_toList] at member
    exact CameOut.of_kept trace kept handedIn here member
  · intro choices
    exact choices.elim fun choice =>
      CanEnd.of_trace choice trace fresh uncalled idle handedIn

/-! ### On cue -/

def bindsTask : Event (Client ⊕ Nat) ρ σ → Bool
  | .started (.inr _) _ | .finished (.inr _) _ _ | .brokeOff (.inr _) _ => true
  | _ => false

omit [DecidableEq Client] in
theorem bindsTask_of_bounds {event : Event (Client ⊕ Nat) ρ σ}
    (bounds : event.Bounds (.inr ticket)) : bindsTask event = true := by
  cases event with
  | started client =>
      cases bounds
      rfl
  | finished client =>
      cases bounds
      rfl
  | brokeOff client =>
      cases bounds
      rfl
  | emitted | touched => cases bounds

inductive Cue (Client ρ : Type) where
  | handIn (call : DeferredCall)
  | pool (move : Pool.Move String)
  | take (ticket : Nat)
  | turn (cue : System.Cue (Client ⊕ Nat) ρ)

def step? (stores : ρ → Program.Handler StoreInterface σ) (manager : Manager)
    (live : Live Client σ) :
    Cue Client ρ → Option (Seen Client ρ σ × Live Client σ)
  | .handIn call =>
    (live.pool.advance? (.add call.notice)).map fun (pool, logged) =>
      ((some (.add call.notice, logged), none),
        { live with pool, calls := live.calls ++ [call] })
  | .pool move =>
    if move.isApart then
      (live.pool.advance? move).map fun (pool, logged) =>
        ((some (move, logged), none), { live with pool })
    else none
  | .take ticket =>
    (live.calls[ticket]?).bind fun call =>
      (live.pool.advance? (.job ticket .take)).bind fun (pool, logged) =>
        (live.system.turn? stores manager (.start (.inr ticket) call.task)).map
          fun (event, system) =>
          ((some (.job ticket .take, logged), some event),
            { live with pool, system })
  | .turn cue =>
    (live.system.turn? stores manager cue).bind fun (event, system) =>
      match event.comesOut? with
      | some (ticket, outcome) =>
        (live.pool.advance? (.job ticket (.ofOutcome outcome))).map
          fun (pool, logged) =>
          ((some (.job ticket (.ofOutcome outcome), logged), some event),
            { live with pool, system })
      | none => if bindsTask event then none
        else some ((none, some event), { live with system })

theorem step_of_step? {live next : Live Client σ} {cue : Cue Client ρ}
    {piece : Seen Client ρ σ}
    (taken : step? stores manager live cue = some (piece, next)) :
    Step stores manager live piece next := by
  cases cue with
  | handIn call =>
      obtain ⟨⟨pool, logged⟩, made, same⟩ := Option.map_eq_some_iff.1 taken
      cases same
      exact .handIn call made
  | pool move =>
      rw [step?] at taken
      split at taken
      · next apart =>
          obtain ⟨⟨pool, logged⟩, made, same⟩ := Option.map_eq_some_iff.1 taken
          cases same
          exact .apart apart made
      · cases taken
  | take ticket =>
      obtain ⟨call, here, afterwards⟩ := Option.bind_eq_some_iff.1 taken
      obtain ⟨⟨pool, logged⟩, made, later⟩ := Option.bind_eq_some_iff.1 afterwards
      obtain ⟨⟨event, system⟩, turned, same⟩ := Option.map_eq_some_iff.1 later
      have turn := System.turn_of_turn? turned
      cases same
      rw [System.turn?] at turned
      split at turned
      · cases turned
      · cases turned
        exact .take here made turn
  | turn cue =>
      obtain ⟨⟨event, system⟩, turned, later⟩ := Option.bind_eq_some_iff.1 taken
      have turn := System.turn_of_turn? turned
      dsimp only at later
      split at later
      · next ticket outcome ends =>
          obtain ⟨⟨pool, logged⟩, made, same⟩ := Option.map_eq_some_iff.1 later
          cases same
          exact .comeOut turn ends made
      · split at later
        · cases later
        · next free =>
            cases later
            exact .turn turn fun ticket bounds =>
              free (bindsTask_of_bounds bounds)

/-- A pool with one worker, and a store on which the next two generations fail,
each in its own way. -/
def overtakenStart : Live Unit ProvisionedStore :=
  ⟨⟨1, false, []⟩, [], ⟨.empty "device" [.fault (.providerUnavailable "first"),
    .fault (.providerUnavailable "second")], fun _ => none⟩⟩

/-- A key is generated on the pool while a caller generates one directly, and
the pool goes down while another operation waits there. -/
def overtakenCues : List (Cue Unit Unit) :=
  [.handIn .generateWithCallback, .pool (.job 0 .drop),
    .handIn .awaitConfirmation, .take 0,
    .turn (.start (.inl ()) .generate), .turn (.goOn (.inr 0) ()),
    .turn (.goOn (.inl ()) ()), .turn (.goOn (.inl ()) ()),
    .turn (.goOn (.inr 0) ()), .turn (.goOn (.inr 0) ()),
    .turn (.goOn (.inr 0) ()), .turn (.goOn (.inr 0) ()), .pool .shutDown,
    .pool (.job 0 (.answer false)),
    .pool (.job 1 .discard), .pool (.job 0 .send), .pool (.job 1 .leave),
    .pool (.job 0 .leave)]

def secondFailure : Except Failure String :=
  .error (.hardwareProviderUnavailable (.providerUnavailable "second"))

private theorem overtaken_played :
    ∃ (seen : List (Seen Unit Unit ProvisionedStore))
      (last : Live Unit ProvisionedStore),
      Trace.play? (step? (fun _ => ProvisionedStore.handler)
        Manager.standardManager) overtakenStart overtakenCues =
        some (seen, last) ∧
      last.calls = [.generateWithCallback, .awaitConfirmation] ∧
      Job.outcomesIn (Pool.historyOf 0 (poolHistory seen)) =
        [some secondFailure] ∧
      Job.outcomesIn (Pool.historyOf 1 (poolHistory seen)) = [none] ∧
      last.pool.calls 0 = [secondFailure] ∧
      last.pool.wait? 1 = some (.error .interruptedWhileWaiting) :=
  ⟨_, _, rfl, rfl, rfl, rfl, rfl, rfl⟩

/-- The caller came first to the store, so the callback is told of the second
failure. -/
theorem deferred_as_direct_overtaken :
    ∃ (seen : List (Seen Unit Unit ProvisionedStore))
      (last : Live Unit ProvisionedStore),
      Trace (Step (fun _ => ProvisionedStore.handler) Manager.standardManager)
        overtakenStart seen last ∧
      last.pool.calls 0 = [secondFailure] ∧
      last.pool.wait? 1 = some (.error .interruptedWhileWaiting) ∧
      CameOut (fun _ => ProvisionedStore.handler) Manager.standardManager
        overtakenStart seen last 0 .generateWithCallback (some secondFailure) ∧
      CameOut (fun _ => ProvisionedStore.handler) Manager.standardManager
        overtakenStart seen last 1 .awaitConfirmation none := by
  obtain ⟨seen, last, played, calls, first, second, called, waits⟩ :=
    overtaken_played
  have trace := Trace.of_play? step_of_step? played
  obtain ⟨held, _⟩ := deferred_as_direct trace rfl rfl fun _ => rfl
  obtain ⟨_, _, _, _, cameFirst, _⟩ :=
    held 0 .generateWithCallback (by rw [calls]; rfl)
  obtain ⟨_, _, _, _, cameSecond, _⟩ :=
    held 1 .awaitConfirmation (by rw [calls]; rfl)
  refine ⟨seen, last, trace, called, waits, cameFirst _ ?_, cameSecond _ ?_⟩
  · rw [first]
    exact List.mem_singleton_self _
  · rw [second]
    exact List.mem_singleton_self _

end Live

end BoundKey
