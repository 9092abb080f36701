import BoundKey.Log

set_option autoImplicit false

/-!
A job of a pool, move by move. A worker runs the closure of a job at most once.
What its task returns is told once: either it is sent to the holder of a handle,
over a channel with room for one message, or a callback is called with it. The
callback is in the keeping of a guard. It is taken out to be called; if it is
still there when the closure is let go of, because the task broke off or was
never run, it is called then, and told that waiting was interrupted.
-/

namespace BoundKey

inductive Notice where
  | handle
  | callback
  deriving DecidableEq, Repr

/-! ### Channels -/

structure Channel (β : Type) where
  held : List β
  senderGone : Bool
  receiverGone : Bool

namespace Channel

variable {β : Type}

def capacity : Nat := 1

def fresh : Channel β :=
  ⟨[], false, false⟩

/-- Sends a message; nothing as long as there is no room for it. Without a
receiver it is lost, and takes no room. -/
def send? (channel : Channel β) (message : β) : Option (Channel β) :=
  if channel.receiverGone then some channel
  else if channel.held.length < capacity then
    some { channel with held := channel.held ++ [message] }
  else none

def receive? (channel : Channel β) : Option (Option β × Channel β) :=
  match channel.held with
  | message :: rest => some (some message, { channel with held := rest })
  | [] => if channel.senderGone then some (none, channel) else none

end Channel

/-! ### Jobs -/

/-- How far a job has come. Where there is a result, none stands for a task that
broke off or was never run. -/
inductive Stage (α : Type) where
  | queued
  | running
  | returned (result : Except Failure α)
  | leaving (result : Option (Except Failure α))
  | ended (result : Option (Except Failure α))

namespace Stage

variable {α : Type}

def isQueued : Stage α → Bool
  | .queued => true
  | _ => false

def isRunning : Stage α → Bool
  | .running => true
  | _ => false

def isBusy : Stage α → Bool
  | .queued | .ended _ => false
  | _ => true

end Stage

structure Job (α : Type) where
  notice : Notice
  stage : Stage α
  /-- Whether the guard still has the callback. -/
  owesCall : Bool
  calls : List (Except Failure α)
  /-- The closure sends the result to a holder, and no result but its end once a
  callback has been called. -/
  channel : Channel (Option (Except Failure α))
  heard : Option (Option (Except Failure α))

inductive Job.Move (α : Type) where
  | take
  | yield (result : Except Failure α)
  | breakOff
  | discard
  /-- The callback is called with the result, and then it may break off
  itself. -/
  | answer (breaksOff : Bool)
  | send
  | leave
  | drop
  /-- The holder of the handle waits no longer: they have got an answer. -/
  | wait

namespace Job

variable {α : Type}

def told (result : Option (Except Failure α)) : Except Failure α :=
  result.getD (.error .interruptedWhileWaiting)

def fresh (notice : Notice) : Job α :=
  ⟨notice, .queued, notice == .callback, [], .fresh, none⟩

/-- Takes the callback out of the guard and calls it, unless it has been taken
before. -/
def call (job : Job α) (answer : Except Failure α) : Job α :=
  if job.owesCall then
    { job with owesCall := false, calls := job.calls ++ [answer] } else job

/-- Lets go of the guard: a callback that it still has is told so now, and that
is logged. -/
def release (job : Job α) : Job α × List LogEvent :=
  if job.owesCall then (job.call (told none), [.taskDropped]) else (job, [])

def message (job : Job α) (result : Except Failure α) :
    Option (Except Failure α) :=
  match job.notice with
  | .handle => some result
  | .callback => none

def advance? (job : Job α) (move : Move α) : Option (Job α × List LogEvent) :=
  match move, job.stage with
  | .take, .queued => some ({ job with stage := .running }, [])
  | .yield result, .running => some ({ job with stage := .returned result }, [])
  | .breakOff, .running => some ({ job with stage := .leaving none }, [])
  | .discard, .queued => some ({ job with stage := .leaving none }, [])
  | .answer breaksOff, .returned result =>
    if job.owesCall then
      some ({ job.call result with
        stage := if breaksOff then .leaving (some result)
          else .returned result }, [])
    else none
  | .send, .returned result =>
    if job.owesCall then none
    else (job.channel.send? (job.message result)).map fun channel =>
      ({ job with stage := .leaving (some result), channel }, [])
  | .leave, .leaving result =>
    let (last, events) := job.release
    some ({ last with
      stage := .ended result,
      channel := { last.channel with senderGone := true } }, events)
  | .drop, _ =>
    if job.channel.receiverGone then none
    else
      some ({ job with channel := { job.channel with receiverGone := true } }, [])
  | .wait, _ =>
    if job.notice = .callback ∨ job.channel.receiverGone then none
    else job.channel.receive?.map fun (received, channel) =>
      ({ job with
        channel := { channel with receiverGone := true },
        heard := some received.join }, [])
  | _, _ => none

def ending (job : Job α) : Option (Except Failure α) → List (Move α)
  | some result =>
      .yield result :: (if job.owesCall then [.answer false] else [])
        ++ [.send, .leave]
  | none => [.breakOff, .leave]

end Job

end BoundKey
