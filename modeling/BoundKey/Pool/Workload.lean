import BoundKey.Pool.Basic

set_option autoImplicit false

/-!
Jobs that wait for one another, and how a pool gets through them. A job may
first wait at a gate until that is opened, then at a meeting until enough jobs
have come; then it yields its result or breaks off.
-/

namespace BoundKey

structure Task where
  gate : Option String
  meeting : Option (String × Nat)
  breaksOff : Bool
  result : Except Failure Int

def Task.outcome (task : Task) : Option (Except Failure Int) :=
  if task.breaksOff then none else some task.result

/-- A pool with what its jobs do, and the gates that are open. -/
structure Workload where
  pool : Pool Int
  tasks : List Task
  opened : List String

namespace Workload

def start (size : Nat) : Except Failure Workload :=
  (Pool.start size).map (⟨·, [], []⟩)

def move (load : Workload) (moves : List (Pool.Move Int)) :
    Workload × List LogEvent :=
  match load.pool.play? moves with
  | some (pool, events) => ({ load with pool }, events)
  | none => (load, [])

def underway (load : Workload) : List (Nat × Task) :=
  ((load.tasks.zip load.pool.jobs).zipIdx.filter fun ((task, job), _) =>
    job.stage.isRunning && task.gate.all load.opened.contains).map
    fun ((task, _), ticket) => (ticket, task)

/-- The jobs that nothing holds up: the first one without meeting, or the first
complete meeting. -/
def ready (load : Workload) : List (Nat × Task) :=
  let present := load.underway
  present.findSome? (fun (ticket, task) =>
    match task.meeting with
    | none => some [(ticket, task)]
    | some (name, size) =>
      let guests := present.filter fun (_, other) =>
        other.meeting.any (·.1 == name)
      if size ≤ guests.length then some (guests.take (max size 1))
      else none) |>.getD []

def finishAll (load : Workload) : List (Nat × Task) → Workload × List LogEvent
  | [] => (load, [])
  | (ticket, task) :: others =>
    let (next, events) := load.move (load.pool.ending ticket task.outcome)
    let (last, more) := next.finishAll others
    (last, events ++ more)

/-- Goes on until every job is over, waits, or is held up; at most `limit` times
a job is taken or some end. -/
def proceed : Nat → Workload → Workload × List LogEvent
  | 0, load => (load, [])
  | limit + 1, load =>
    match load.pool.nextTaken? with
    | some ticket =>
      let (next, events) := load.move [.job ticket .take]
      let (last, more) := proceed limit next
      (last, events ++ more)
    | none =>
      match load.ready with
      | [] => (load, [])
      | jobs =>
        let (next, events) := load.finishAll jobs
        let (last, more) := proceed limit next
        (last, events ++ more)

def settle (load : Workload) : Workload × List LogEvent :=
  proceed (2 * load.tasks.length) load

def add (load : Workload) (notice : Notice) (task : Task) :
    Workload × List LogEvent :=
  let (next, events) := load.move (load.pool.entry notice)
  let (last, more) := settle { next with tasks := next.tasks ++ [task] }
  (last, events ++ more)

def shutdown (load : Workload) : Workload × List LogEvent :=
  let (next, events) := load.move [.shutDown]
  let (last, more) := settle next
  (last, events ++ more)

def openGate (load : Workload) (gate : String) : Workload × List LogEvent :=
  settle { load with opened := gate :: load.opened }

end Workload

end BoundKey
