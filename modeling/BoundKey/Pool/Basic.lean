import BoundKey.Pool.Job

set_option autoImplicit false

/-!
A pool of workers. Jobs wait in the order in which they came, and a free worker
takes the one that has waited longest. When the pool goes down it takes no more
jobs, but those that wait may still be run.
-/

namespace BoundKey

/-- A pool; the ticket of a job is its place in the list. -/
structure Pool (α : Type) where
  size : Nat
  isDown : Bool
  jobs : List (Job α)

inductive Pool.Move (α : Type) where
  | add (notice : Notice)
  | job (ticket : Nat) (move : Job.Move α)
  | shutDown

namespace Pool

variable {α : Type}

def noWorkers : Failure :=
  .workerPoolUnavailable "worker pool size must be positive"

def start (size : Nat) : Except Failure (Pool α) :=
  if size = 0 then .error noWorkers else .ok ⟨size, false, []⟩

/-- A pool after a move, and what is logged; nothing if the move cannot be made
now. Which of the jobs that wait is taken next, and by how many workers at a
time, is left open here. -/
def advance? (pool : Pool α) : Move α → Option (Pool α × List LogEvent)
  | .add notice =>
    if pool.isDown then none
    else some ({ pool with jobs := pool.jobs ++ [.fresh notice] }, [])
  | .job ticket move =>
    (pool.jobs[ticket]?).bind fun job =>
      (job.advance? move).map fun (next, events) =>
        ({ pool with jobs := pool.jobs.set ticket next }, events)
  | .shutDown =>
    if pool.isDown then none
    else some ({ pool with isDown := true }, [.poolShuttingDown pool.size])

def play? (pool : Pool α) : List (Move α) → Option (Pool α × List LogEvent)
  | [] => some (pool, [])
  | move :: rest =>
    (pool.advance? move).bind fun (next, events) =>
      (next.play? rest).map fun (last, more) => (last, events ++ more)

/-- How a job is handed in: whoever leaves a callback drops the handle at
once. -/
def entry (pool : Pool α) (notice : Notice) : List (Move α) :=
  match notice with
  | .handle => [.add notice]
  | .callback => [.add notice, .job pool.jobs.length .drop]

def busyCount (pool : Pool α) : Nat :=
  pool.jobs.countP (·.stage.isBusy)

/-- How many jobs can be run at a time: when the pool goes down, the thread that
handed out the jobs helps with those that wait. -/
def capacity (pool : Pool α) : Nat :=
  if pool.isDown then pool.size + 1 else pool.size

def nextTaken? (pool : Pool α) : Option Nat :=
  if pool.busyCount < pool.capacity then pool.jobs.findIdx? (·.stage.isQueued)
  else none

def ending (pool : Pool α) (ticket : Nat) (result : Option (Except Failure α)) :
    List (Move α) :=
  match pool.jobs[ticket]? with
  | some job => (job.ending result).map (.job ticket)
  | none => []

def wait? (pool : Pool α) (ticket : Nat) : Option (Except Failure α) :=
  (pool.jobs[ticket]?).bind fun job =>
    (job.advance? .wait).bind fun (next, _) => next.heard.map Job.told

def calls (pool : Pool α) (ticket : Nat) : List (Except Failure α) :=
  ((pool.jobs[ticket]?).map (·.calls)).getD []

end Pool

end BoundKey
