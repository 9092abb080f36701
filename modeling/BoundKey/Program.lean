import BoundKey.Log

set_option autoImplicit false

/-!
Operations that call on something outside, written as data. A program emits
signals, makes calls and goes on with the answers; a call may also break off,
and then so does the program, save for what it ensures. A program can be run
against any handler of its calls, or taken apart call by call to interleave it
with others.
-/

namespace BoundKey

structure Interface where
  Call : Type
  Answer : Call → Type

/-- A program that makes calls of one interface and yields a value of type
`α`. -/
inductive Program (interface : Interface) (α : Type) where
  | done (value : α)
  | abort
  | emit (signal : Signal) (next : Program interface α)
  /-- Makes a call; `none` stands for a call that broke off. -/
  | call (request : interface.Call)
      (next : Option (interface.Answer request) → Program interface α)

namespace Program

variable {interface : Interface} {α β σ : Type}

def bind : Program interface α → (α → Program interface β) → Program interface β
  | .done value, next => next value
  | .abort, _ => .abort
  | .emit signal rest, next => .emit signal (rest.bind next)
  | .call request rest, next =>
      .call request fun answer => (rest answer).bind next

instance : Monad (Program interface) where
  pure := .done
  bind := bind

def log (event : LogEvent) : Program interface Unit :=
  .emit (.log event) (.done ())

def perform (interface : Interface) (request : interface.Call) :
    Program interface (interface.Answer request) :=
  .call request fun
    | some answer => .done answer
    | none => .abort

/-- Emits a signal when a program ends, whether with a value or by breaking
off. -/
def ensuring (last : Signal) : Program interface α → Program interface α
  | .done value => .emit last (.done value)
  | .abort => .emit last .abort
  | .emit signal rest => .emit signal (rest.ensuring last)
  | .call request rest => .call request fun answer => (rest answer).ensuring last

/-- What handles calls: from a state and a call it finds the answer, or breaks
off, the state afterwards and the signals on the way. -/
abbrev Handler (interface : Interface) (σ : Type) :=
  σ → (request : interface.Call) →
    Option (interface.Answer request) × σ × List Signal

def run (handler : Handler interface σ) :
    σ → Program interface α → Option α × σ × List Signal
  | state, .done value => (some value, state, [])
  | state, .abort => (none, state, [])
  | state, .emit signal rest =>
    let (value, last, signals) := run handler state rest
    (value, last, signal :: signals)
  | state, .call request rest =>
    let (answer, middle, early) := handler state request
    let (value, last, late) := run handler middle (rest answer)
    (value, last, early ++ late)

end Program

abbrev Operation (interface : Interface) (α : Type) :=
  ExceptT Failure (Program interface) α

namespace Operation

variable {interface : Interface} {α : Type}

def ofExcept (result : Except Failure α) : Operation interface α :=
  ExceptT.mk (pure result)

def log (event : LogEvent) : Operation interface Unit :=
  ExceptT.lift (Program.log event)

def reporting (method : Method) (operation : Operation interface α) :
    Operation interface α :=
  ExceptT.mk do
    match ← operation.run with
    | .ok value => pure (.ok value)
    | .error failure =>
      Program.log (.operationFailed method failure)
      pure (.error failure)

end Operation

end BoundKey
