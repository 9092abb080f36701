import BoundKey.Pool.Job

set_option autoImplicit false

/-!
The runs of one job, in every order that its worker and the holder of its handle
can bring about. The guard has the callback until it is called, and the closure
is not done with a result that the guard still has a callback for; so when the
closure lets go of the guard, a callback is in it exactly if there never was a
result. What the channel holds follows from how far the job has come, so there
is always room for the one message.
-/

namespace BoundKey

variable {α : Type}

inductive Plays {σ μ : Type} (advance? : σ → μ → Option (σ × List LogEvent))
    (start : σ) : List (μ × List LogEvent) → σ → Prop where
  | stay : Plays advance? start [] start
  | move {history : List (μ × List LogEvent)} {middle last : σ} {move : μ}
      {logged : List LogEvent} (plays : Plays advance? start history middle)
      (made : advance? middle move = some (last, logged)) :
      Plays advance? start (history ++ [(move, logged)]) last

theorem Plays.trans {σ μ : Type} {advance? : σ → μ → Option (σ × List LogEvent)}
    {start middle last : σ} {early late : List (μ × List LogEvent)}
    (first : Plays advance? start early middle)
    (second : Plays advance? middle late last) :
    Plays advance? start (early ++ late) last := by
  induction second with
  | stay =>
      rw [List.append_nil]
      exact first
  | move plays made ih =>
      rw [← List.append_assoc]
      exact .move ih made

/-! ### How a task comes out -/

/-- How the task of a job comes out by a move: with its result, or with none
because it broke off or was never run. -/
def Job.Move.outcome? : Job.Move α → Option (Option (Except Failure α))
  | .yield result => some (some result)
  | .breakOff | .discard => some none
  | _ => none

def Job.Move.isOwn : Job.Move α → Bool
  | .drop | .wait => false
  | _ => true

namespace Stage

def outcome? : Stage α → Option (Option (Except Failure α))
  | .queued | .running => none
  | .returned result => some (some result)
  | .leaving result | .ended result => some result

def sent : Stage α → List (Option (Except Failure α))
  | .queued | .running | .returned _ => []
  | .leaving result | .ended result => (result.map some).toList

def isOver : Stage α → Bool
  | .ended _ => true
  | _ => false

def isLeft : Stage α → Bool
  | .leaving _ | .ended _ => true
  | _ => false

end Stage

/-! ### Channels -/

namespace Channel

variable {β : Type} {channel next : Channel β}

theorem of_send? {message : β} (sent : channel.send? message = some next) :
    next.receiverGone = channel.receiverGone ∧
      next.senderGone = channel.senderGone ∧
      (channel.receiverGone = false → next.held = channel.held ++ [message]) := by
  rw [send?] at sent
  split at sent
  · next gone =>
      cases sent
      exact ⟨rfl, rfl, fun kept => absurd (gone.symm.trans kept) (by decide)⟩
  · split at sent
    · cases sent
      exact ⟨rfl, rfl, fun _ => rfl⟩
    · cases sent

theorem send?_of_empty (channel : Channel β) (empty : channel.held = [])
    (message : β) : ∃ next, channel.send? message = some next := by
  rw [send?, empty]
  cases channel.receiverGone with
  | true => exact ⟨_, rfl⟩
  | false => exact ⟨_, rfl⟩

theorem of_receive? {received : Option β}
    (got : channel.receive? = some (received, next)) :
    next.senderGone = channel.senderGone ∧
      ((∃ message, received = some message ∧
        channel.held = message :: next.held) ∨
        received = none ∧ channel.held = [] ∧ channel.senderGone = true ∧
          next.held = []) := by
  rw [receive?] at got
  split at got
  · next message rest holds =>
      cases got
      exact ⟨rfl, .inl ⟨message, rfl, holds⟩⟩
  · next empty =>
      split at got
      · next gone =>
          cases got
          exact ⟨rfl, .inr ⟨rfl, empty, gone, empty⟩⟩
      · cases got

end Channel

namespace Job

/-! ### One move -/

inductive Step (job : Job α) : Move α → Job α → List LogEvent → Prop where
  | take (here : job.stage = .queued) :
    Step job .take { job with stage := .running } []
  | yield (result : Except Failure α) (here : job.stage = .running) :
      Step job (.yield result) { job with stage := .returned result } []
  | breakOff (here : job.stage = .running) :
    Step job .breakOff { job with stage := .leaving none } []
  | discard (here : job.stage = .queued) :
    Step job .discard { job with stage := .leaving none } []
  | answer {result : Except Failure α} (breaksOff : Bool)
      (here : job.stage = .returned result) (owed : job.owesCall = true) :
      Step job (.answer breaksOff)
        { job with
          owesCall := false
          calls := job.calls ++ [result]
          stage := if breaksOff then .leaving (some result)
            else .returned result } []
  | send {result : Except Failure α}
      {channel : Channel (Option (Except Failure α))}
      (here : job.stage = .returned result) (settled : job.owesCall = false)
      (sent : job.channel.send? (job.message result) = some channel) :
      Step job .send { job with stage := .leaving (some result), channel } []
  | leaveOwing {result : Option (Except Failure α)}
      (here : job.stage = .leaving result) (owed : job.owesCall = true) :
      Step job .leave
        { job with
          stage := .ended result
          owesCall := false
          calls := job.calls ++ [told none]
          channel := { job.channel with senderGone := true } } [.taskDropped]
  | leave {result : Option (Except Failure α)}
      (here : job.stage = .leaving result) (settled : job.owesCall = false) :
      Step job .leave { job with stage := .ended result, channel :=
        { job.channel with senderGone := true } } []
  | drop (kept : job.channel.receiverGone = false) :
      Step job .drop { job with channel :=
        { job.channel with receiverGone := true } } []
  | wait {received : Option (Option (Except Failure α))}
      {channel : Channel (Option (Except Failure α))}
      (handle : job.notice = .handle) (kept : job.channel.receiverGone = false)
      (got : job.channel.receive? = some (received, channel)) :
      Step job .wait
        { job with channel := { channel with receiverGone :=
            true }, heard := some received.join } []

theorem call_of_owed {job : Job α} (owed : job.owesCall = true)
    (answer : Except Failure α) :
    job.call answer =
      { job with owesCall := false, calls := job.calls ++ [answer] } :=
  if_pos owed

theorem release_of_owed {job : Job α} (owed : job.owesCall = true) :
    job.release = (job.call (told none), [.taskDropped]) :=
  if_pos owed

theorem release_of_settled {job : Job α} (settled : job.owesCall = false) :
    job.release = (job, []) :=
  if_neg (Bool.not_eq_true _ ▸ settled)

theorem step_of_advance? {job next : Job α} {move : Move α}
    {logged : List LogEvent} (made : job.advance? move = some (next, logged)) :
    job.Step move next logged := by
  unfold advance? at made
  split at made
  · next here => cases made; exact .take here
  · next here => cases made; exact .yield _ here
  · next here => cases made; exact .breakOff here
  · next here => cases made; exact .discard here
  · next breaksOff result here =>
      split at made
      · next owed =>
          rw [call_of_owed owed] at made
          cases made
          exact .answer breaksOff here owed
      · cases made
  · next result here =>
      split at made
      · cases made
      · next settled =>
          obtain ⟨channel, sent, same⟩ := Option.map_eq_some_iff.1 made
          cases same
          exact .send here (Bool.not_eq_true _ ▸ settled) sent
  · next result here =>
      cases owed : job.owesCall with
      | true =>
          rw [release_of_owed owed, call_of_owed owed] at made
          cases made
          exact .leaveOwing here owed
      | false =>
          rw [release_of_settled owed] at made
          cases made
          exact .leave here owed
  · split at made
    · cases made
    · next kept =>
        cases made
        exact .drop (Bool.not_eq_true _ ▸ kept)
  · split at made
    · cases made
    · next may =>
        obtain ⟨notCallback, kept⟩ := not_or.1 may
        obtain ⟨⟨received, channel⟩, got, same⟩ := Option.map_eq_some_iff.1 made
        cases same
        refine .wait ?_ (Bool.not_eq_true _ ▸ kept) got
        cases told : job.notice with
        | handle => rfl
        | callback => exact absurd told notCallback
  · cases made

theorem Step.notice_eq {job next : Job α} {move : Move α}
    {logged : List LogEvent} (step : job.Step move next logged) :
    next.notice = job.notice := by
  cases step with
  | _ => rfl

/-! ### What every run keeps -/

/-- What is true of a job whose task has come out in some ways so far, and for
which some events have been logged. -/
structure Sound (outcomes : List (Option (Except Failure α)))
    (logged : List LogEvent) (job : Job α) : Prop where
  outcomes_eq : outcomes = job.stage.outcome?.toList
  /-- A guard that has its callback was never asked for it, and a closure with a
  result has asked for it. -/
  owed : job.owesCall = true → job.notice = .callback ∧
    job.calls = [] ∧ logged = [] ∧
    job.stage.isOver = false ∧ ∀ result, job.stage ≠ .leaving (some result)
  settled : job.owesCall = false →
    job.notice = .handle ∧ job.calls = [] ∧ logged = [] ∨
    job.notice = .callback ∧ ∃ outcome, job.stage.outcome? = some outcome ∧
      job.calls = [told outcome] ∧
      logged = if outcome.isNone then [.taskDropped] else []
  /-- Nothing is sent before the task has come out. -/
  room : job.stage.isLeft = false → job.channel.held = []
  sent : job.notice = .handle → job.channel.receiverGone = false →
    job.channel.held = job.stage.sent
  senderGone : job.channel.senderGone = job.stage.isOver
  heard : ∀ heard, job.heard = some heard → job.stage.outcome? = some heard

theorem sound_fresh (notice : Notice) : Sound [] [] (fresh notice : Job α) where
  outcomes_eq := rfl
  owed owes := by
    cases notice with
    | handle => cases owes
    | callback => exact ⟨rfl, rfl, rfl, rfl, nofun⟩
  settled owes := by
    cases notice with
    | handle => exact .inl ⟨rfl, rfl, rfl⟩
    | callback => cases owes
  room _ := rfl
  sent _ _ := rfl
  senderGone := rfl
  heard := nofun

variable {outcomes : List (Option (Except Failure α))}
  {logged : List LogEvent} {job : Job α}

theorem of_returned {result : Except Failure α}
    (here : job.stage = .returned result) :
    job.stage.outcome? = some (some result) ∧ job.stage.isOver = false ∧
      job.stage.isLeft = false := by
  rw [here]
  exact ⟨rfl, rfl, rfl⟩

namespace Sound

theorem goOn (sound : job.Sound outcomes logged) (stage : Stage α)
    (undecided : job.stage.outcome? = none)
    (untold : stage.sent = []) (notOver : stage.isOver = false)
    (noResult : ∀ result, stage ≠ .leaving (some result)) :
    Sound (outcomes ++ stage.outcome?.toList) logged { job with stage } := by
  have notLeft : job.stage.isLeft = false ∧ job.stage.isOver = false := by
    cases here : job.stage with
    | queued | running => exact ⟨rfl, rfl⟩
    | returned result | leaving result | ended result =>
        rw [here] at undecided
        cases undecided
  constructor
  case outcomes_eq =>
    rw [sound.outcomes_eq, undecided]
    rfl
  case owed =>
    intro owed
    obtain ⟨callback, uncalled, unlogged, _⟩ := sound.owed owed
    exact ⟨callback, uncalled, unlogged, notOver, noResult⟩
  case settled =>
    intro settled
    obtain handle | ⟨_, outcome, decided, _⟩ := sound.settled settled
    · exact .inl handle
    · rw [undecided] at decided
      cases decided
  case room => exact fun _ => sound.room notLeft.1
  case sent => exact fun _ _ => (sound.room notLeft.1).trans untold.symm
  case senderGone => exact sound.senderGone.trans (notLeft.2.trans notOver.symm)
  case heard =>
    intro heard told
    have decided := sound.heard heard told
    rw [undecided] at decided
    cases decided

theorem answer (sound : job.Sound outcomes logged) {result : Except Failure α}
    {stage : Stage α} (here : job.stage = .returned result)
    (owed : job.owesCall = true)
    (same : stage = .returned result ∨ stage = .leaving (some result)) :
    Sound outcomes logged
      { job with owesCall := false, calls := job.calls ++ [result], stage } := by
  obtain ⟨callback, uncalled, unlogged, _⟩ := sound.owed owed
  have decided : stage.outcome? = some (some result) ∧ stage.isOver = false := by
    obtain returned | leaving := same
    · rw [returned]
      exact ⟨rfl, rfl⟩
    · rw [leaving]
      exact ⟨rfl, rfl⟩
  have before := of_returned here
  constructor
  case outcomes_eq => rw [sound.outcomes_eq, before.1, decided.1]
  case owed => exact nofun
  case settled =>
    intro _
    refine .inr ⟨callback, some result, decided.1, ?_, unlogged⟩
    rw [uncalled]
    rfl
  case room => exact fun _ => sound.room before.2.2
  case sent =>
    intro handle _
    exact absurd (handle.symm.trans callback) nofun
  case senderGone =>
    exact sound.senderGone.trans (before.2.1.trans decided.2.symm)
  case heard =>
    intro heard told
    exact decided.1.trans (before.1.symm.trans (sound.heard heard told))

theorem send (sound : job.Sound outcomes logged) {result : Except Failure α}
    {channel : Channel (Option (Except Failure α))}
    (here : job.stage = .returned result)
    (settled : job.owesCall = false)
    (sent : job.channel.send? (job.message result) = some channel) :
    Sound outcomes logged
      { job with stage := .leaving (some result), channel } := by
  obtain ⟨sameReceiver, sameSender, holds⟩ := Channel.of_send? sent
  have before := of_returned here
  constructor
  case outcomes_eq => rw [sound.outcomes_eq, before.1]; rfl
  case owed => exact fun owed => absurd (settled.symm.trans owed) nofun
  case settled =>
    intro _
    have told := sound.settled settled
    rw [before.1] at told
    exact told
  case room => exact nofun
  case sent =>
    intro handle kept
    change job.notice = .handle at handle
    rw [holds (sameReceiver.symm.trans kept), sound.room before.2.2,
      message, handle]
    rfl
  case senderGone => exact sameSender.trans (sound.senderGone.trans before.2.1)
  case heard => exact fun heard told =>
    before.1.symm.trans (sound.heard heard told)

/-- A callback that is still in the guard is told that waiting was interrupted,
and only then is that logged. -/
theorem leaveOwing (sound : job.Sound outcomes logged)
    {result : Option (Except Failure α)}
    (here : job.stage = .leaving result) (owed : job.owesCall = true) :
    Sound outcomes (logged ++ [.taskDropped])
      { job with
        stage := .ended result
        owesCall := false
        calls := job.calls ++ [told none]
        channel := { job.channel with senderGone := true } } := by
  obtain ⟨callback, uncalled, unlogged, _, noResult⟩ := sound.owed owed
  -- A closure with a result has asked for its callback, so this one has none.
  have isNone : result = none := by
    cases result with
    | none => rfl
    | some result => exact absurd here (noResult result)
  have before : job.stage.outcome? = some none := by
    rw [here, isNone]
    rfl
  constructor
  case outcomes_eq => rw [sound.outcomes_eq, before, isNone]; rfl
  case owed => exact nofun
  case settled =>
    intro _
    refine .inr ⟨callback, none, congrArg some isNone, ?_, ?_⟩
    · rw [uncalled]
      rfl
    · rw [unlogged]
      rfl
  case room => exact nofun
  case sent =>
    intro handle _
    exact absurd (handle.symm.trans callback) nofun
  case senderGone => rfl
  case heard =>
    intro heard told
    rw [isNone]
    exact before.symm.trans (sound.heard heard told)

theorem leave (sound : job.Sound outcomes logged)
    {result : Option (Except Failure α)}
    (here : job.stage = .leaving result) (settled : job.owesCall = false) :
    Sound outcomes logged
      { job with stage := .ended result, channel :=
        { job.channel with senderGone := true } } := by
  have before : job.stage.outcome? = some result ∧
      job.stage.sent = (result.map some).toList := by
    rw [here]
    exact ⟨rfl, rfl⟩
  constructor
  case outcomes_eq => rw [sound.outcomes_eq, before.1]; rfl
  case owed => exact fun owed => absurd (settled.symm.trans owed) nofun
  case settled =>
    intro _
    have told := sound.settled settled
    rw [before.1] at told
    exact told
  case room => exact nofun
  case sent => exact fun handle kept => (sound.sent handle kept).trans before.2
  case senderGone => rfl
  case heard => exact fun heard told =>
    before.1.symm.trans (sound.heard heard told)

theorem drop (sound : job.Sound outcomes logged) :
    Sound outcomes logged
      { job with channel := { job.channel with receiverGone := true } } :=
  { sound with sent := fun _ kept => nomatch kept }

theorem wait (sound : job.Sound outcomes logged)
    {received : Option (Option (Except Failure α))}
    {channel : Channel (Option (Except Failure α))}
    (handle : job.notice = .handle)
    (kept : job.channel.receiverGone = false)
    (got : job.channel.receive? = some (received, channel)) :
    Sound outcomes logged
      { job with channel := { channel with receiverGone :=
          true }, heard := some received.join } := by
  obtain ⟨sameSender, source⟩ := Channel.of_receive? got
  have holds := sound.sent handle kept
  have decided : job.stage.outcome? = some received.join ∧
      job.stage.isLeft = true := by
    obtain ⟨message, isMessage, front⟩ | ⟨isNone, empty, gone, _⟩ := source
    · rw [front] at holds
      cases here : job.stage with
      | queued | running | returned result =>
          rw [here] at holds
          cases holds
      | leaving result | ended result =>
          rw [here] at holds
          cases result with
          | none => cases holds
          | some result =>
              obtain ⟨isResult, _⟩ := List.cons.inj holds
              rw [isMessage, isResult]
              exact ⟨rfl, rfl⟩
    · rw [sound.senderGone] at gone
      rw [empty] at holds
      cases here : job.stage with
      | queued | running | returned result | leaving result =>
          rw [here] at gone
          cases gone
      | ended result =>
          rw [here] at holds
          cases result with
          | some result => cases holds
          | none =>
              rw [isNone]
              exact ⟨rfl, rfl⟩
  exact { sound with
    room := fun notLeft => absurd (decided.2.symm.trans notLeft) nofun
    sent := fun _ kept => nomatch kept
    senderGone := sameSender.trans sound.senderGone
    heard := fun heard told => decided.1.trans told }

theorem step (sound : job.Sound outcomes logged) {move : Move α} {next : Job α}
    {more : List LogEvent} (step : job.Step move next more) :
    next.Sound (outcomes ++ move.outcome?.toList) (logged ++ more) := by
  have undecided (other : Move α) (neither : other.outcome? = none) :
      outcomes ++ other.outcome?.toList = outcomes := by
    rw [neither]
    exact List.append_nil outcomes
  cases step with
  | take here =>
      rw [List.append_nil logged]
      exact sound.goOn .running (congrArg Stage.outcome? here) rfl rfl nofun
  | yield result here =>
      rw [List.append_nil logged]
      exact sound.goOn (.returned result)
        (congrArg Stage.outcome? here) rfl rfl nofun
  | breakOff here =>
      rw [List.append_nil logged]
      exact sound.goOn (.leaving none)
        (congrArg Stage.outcome? here) rfl rfl nofun
  | discard here =>
      rw [List.append_nil logged]
      exact sound.goOn (.leaving none)
        (congrArg Stage.outcome? here) rfl rfl nofun
  | answer breaksOff here owed =>
      rw [undecided (.answer breaksOff) rfl, List.append_nil logged]
      apply sound.answer here owed
      cases breaksOff with
      | false => exact .inl rfl
      | true => exact .inr rfl
  | send here settled sent =>
      rw [undecided .send rfl, List.append_nil logged]
      exact sound.send here settled sent
  | leaveOwing here owed =>
      rw [undecided .leave rfl]
      exact sound.leaveOwing here owed
  | leave here settled =>
      rw [undecided .leave rfl, List.append_nil logged]
      exact sound.leave here settled
  | drop kept =>
      rw [undecided .drop rfl, List.append_nil logged]
      exact sound.drop
  | wait handle kept got =>
      rw [undecided .wait rfl, List.append_nil logged]
      exact sound.wait handle kept got

end Sound

/-- The callback has been called with how the task came out, or not at all. -/
theorem Sound.called (sound : job.Sound outcomes logged) :
    job.calls = [] ∧ logged = [] ∨
    job.notice = .callback ∧ ∃ outcome, outcomes = [outcome] ∧
      job.calls = [told outcome] ∧
      logged = if outcome.isNone then [.taskDropped] else [] := by
  cases owed : job.owesCall with
  | true =>
      obtain ⟨_, uncalled, unlogged, _⟩ := sound.owed owed
      exact .inl ⟨uncalled, unlogged⟩
  | false =>
      obtain ⟨_, uncalled, unlogged⟩ | ⟨callback, outcome, decided, called⟩ :=
        sound.settled owed
      · exact .inl ⟨uncalled, unlogged⟩
      · refine .inr ⟨callback, outcome, ?_, called⟩
        rw [sound.outcomes_eq, decided]
        rfl

def outcomesIn (history : List (Move α × List LogEvent)) :
    List (Option (Except Failure α)) :=
  history.filterMap (·.1.outcome?)

theorem sound_of_plays {notice : Notice} {history : List (Move α × List LogEvent)}
    (plays : Plays advance? (fresh notice) history job) :
    Sound (outcomesIn history) (history.flatMap (·.2)) job := by
  induction plays with
  | stay => exact sound_fresh notice
  | move plays made ih =>
      have after := ih.step (step_of_advance? made)
      rw [outcomesIn, List.filterMap_append, List.flatMap_append,
        List.flatMap_singleton]
      exact after

/-! ### From the end of the task on -/

theorem advance?_leave {result : Option (Except Failure α)}
    (here : job.stage = .leaving result) :
    ∃ last more, job.advance? .leave = some (last, more) ∧
      last.stage = .ended result := by
  unfold advance?
  rw [here]
  exact ⟨_, _, rfl, rfl⟩

theorem Sound.advance?_send (sound : job.Sound outcomes logged)
    {result : Except Failure α} (here : job.stage = .returned result)
    (settled : job.owesCall = false) :
    ∃ next, job.advance? .send = some (next, []) ∧
      next.stage = .leaving (some result) := by
  obtain ⟨channel, sent⟩ :=
    Channel.send?_of_empty job.channel (sound.room (of_returned here).2.2)
    (job.message result)
  refine ⟨{ job with stage := .leaving (some result), channel }, ?_, rfl⟩
  unfold advance?
  rw [here]
  dsimp only
  rw [settled, sent]
  rfl

theorem advance?_answer {result : Except Failure α}
    (here : job.stage = .returned result) (owed : job.owesCall = true) :
    job.advance? (.answer false) = some ({ job with
      owesCall := false
      calls := job.calls ++ [result]
      stage := .returned result }, []) := by
  unfold advance?
  rw [here]
  dsimp only
  rw [if_pos owed, call_of_owed owed]
  rfl

/-- Once the task has come out, the closure gets to its end by moves of its own,
whatever the holder of the handle does or leaves undone. -/
theorem Sound.plays_ended (sound : job.Sound outcomes logged)
    {outcome : Option (Except Failure α)}
    (decided : job.stage.outcome? = some outcome) :
    ∃ history last, Plays advance? job history last ∧
      last.stage = .ended outcome ∧
      ∀ made ∈ history, Move.isOwn made.1 = true := by
  cases here : job.stage with
  | queued | running =>
      rw [here] at decided
      cases decided
  | ended result =>
      rw [here] at decided
      cases decided
      exact ⟨[], job, .stay, here, nofun⟩
  | leaving result =>
      rw [here] at decided
      cases decided
      obtain ⟨last, more, left, isOver⟩ := advance?_leave here
      exact ⟨_, last, .move .stay left, isOver, List.forall_mem_singleton.2 rfl⟩
  | returned result =>
      rw [here] at decided
      cases decided
      cases owed : job.owesCall with
      | false =>
          obtain ⟨next, sent, leaving⟩ := sound.advance?_send here owed
          obtain ⟨last, more, left, isOver⟩ := advance?_leave leaving
          exact ⟨_, last, .move (.move .stay sent) left,
            isOver, by simp [Move.isOwn]⟩
      | true =>
          have called := advance?_answer here owed
          obtain ⟨next, sent, leaving⟩ :=
            (sound.answer here owed (.inl rfl)).advance?_send rfl rfl
          obtain ⟨last, more, left, isOver⟩ := advance?_leave leaving
          exact ⟨_, last, .move (.move (.move .stay called) sent) left,
            isOver, by simp [Move.isOwn]⟩

/-- The holder of a handle that was kept gets how the task came out as soon as
the job is over. -/
theorem Sound.advance?_wait (sound : job.Sound outcomes logged)
    {outcome : Option (Except Failure α)}
    (here : job.stage = .ended outcome) (handle : job.notice = .handle)
    (kept : job.channel.receiverGone = false) :
    ∃ next, job.advance? .wait = some (next, []) ∧ next.heard = some outcome := by
  have holds : job.channel.held = (outcome.map some).toList := by
    rw [sound.sent handle kept, here]
    rfl
  have gone : job.channel.senderGone = true := by
    rw [sound.senderGone, here]
    rfl
  have got : ∃ received channel,
      job.channel.receive? = some (received, channel) ∧
        received.join = outcome := by
    rw [Channel.receive?, holds]
    cases outcome with
    | none => exact ⟨none, job.channel, if_pos gone, rfl⟩
    | some result => exact ⟨some (some result), _, rfl, rfl⟩
  obtain ⟨received, channel, receives, joined⟩ := got
  have may : ¬ (job.notice = .callback ∨ job.channel.receiverGone = true) := by
    rw [handle, kept]
    decide
  refine
    ⟨{ job with channel := { channel with receiverGone :=
        true }, heard := some received.join }, ?_, ?_⟩
  · unfold advance?
    rw [if_neg may, receives]
    rfl
  · exact congrArg some joined

end Job

end BoundKey
