import BoundKey.Report.Log
import BoundKey.Service
import BoundKey.Store.Provisioned
import BoundKey.Store.Software

set_option autoImplicit false

/-!
A service at work: the store behind its manager, the sink of its markers and
what its surroundings supply. Programs are run in it one after the other. When
the service is shut down, nothing can be run any more, unless the manager was
taken out of it beforehand.
-/

namespace BoundKey

inductive SessionStore where
  | software (entry : Option KeyEntry)
  | provisioned (store : ProvisionedStore)

def SessionStore.handler (keyAlias : String) (supply : SoftwareStore.Supply) :
    Program.Handler StoreInterface SessionStore
  | .software entry, request =>
    let (answer, next, signals) :=
      SoftwareStore.handler keyAlias supply entry request
    (answer, .software next, signals)
  | .provisioned store, request =>
    let (answer, next, signals) := ProvisionedStore.handler store request
    (answer, .provisioned next, signals)

/-- Where markers go: to the log, or to a window that keeps the latest. -/
inductive MarkerSink where
  | log
  | window (window : MarkerWindow Marker)

namespace MarkerSink

def record (sink : MarkerSink) (marker : Marker) : MarkerSink × List LogEvent :=
  match sink with
  | log => (log, [.marked marker])
  | window kept => (window (kept.record marker), [])

def recorded : MarkerSink → List Marker
  | log => []
  | window kept => kept.recorded

/-- Takes in the markers among signals and lists everything that is logged, in
order. -/
def absorb (sink : MarkerSink) : List Signal → MarkerSink × List LogEvent
  | [] => (sink, [])
  | .log event :: rest =>
    let (last, events) := absorb sink rest
    (last, event :: events)
  | .mark marker :: rest =>
    let (next, early) := sink.record marker
    let (last, late) := absorb next rest
    (last, early ++ late)

end MarkerSink

inductive SessionPhase where
  | service
  /-- The manager alone, which goes on working. -/
  | manager
  | nothing
  deriving DecidableEq, Repr

structure Session where
  service : Service
  store : SessionStore
  sink : MarkerSink
  phase : SessionPhase
  supply : Nat → SoftwareStore.Supply
  turn : Nat

namespace Session

def makesKeys (session : Session) : Bool :=
  match session.store with
  | .software _ => true
  | .provisioned _ => false

def tape (session : Session) : Tape :=
  (session.supply session.turn).tape

def run {α : Type} (session : Session) (program : Program StoreInterface α) :
    Option α × Session × List LogEvent :=
  let handler := SessionStore.handler session.service.manager.keyAlias
    (session.supply session.turn)
  let (value, store, signals) := program.run handler session.store
  let (sink, events) := session.sink.absorb signals
  (value, { session with store, sink, turn := session.turn + 1 }, events)

def start (config : Config) (provider : CryptoProvider) (store : SessionStore)
    (sink : MarkerSink) (supply : Nat → SoftwareStore.Supply) :
    Option (Except Failure (Session × List LogEvent)) :=
  let program : Program StoreInterface (Except Failure Service) :=
    (Service.start config provider).run
  match program.run (SessionStore.handler config.keyAlias (supply 0)) store with
  | (none, _, _) => none
  | (some (.error failure), _, _) => some (.error failure)
  | (some (.ok service), stored, signals) =>
    let (next, events) := sink.absorb signals
    some (.ok (⟨service, stored, next, .service, supply, 1⟩, events))

/-- Shuts the service down and lists what was logged; nothing is listed if it is
no longer there. A manager that is kept was taken out before: another manager
with a pool of one worker stood in for it, and the pool is shared and stays. -/
def shutdown (session : Session) (keepsManager : Bool) :
    Option (List LogEvent) × Session :=
  match session.phase with
  | .service =>
    let (_, next, events) := session.run (session.service.shutdown keepsManager)
    if keepsManager then
      (some (.poolStarted 1 :: events), { next with phase := .manager })
    else (some events, { next with phase := .nothing })
  | _ => (none, { session with phase := .nothing })

end Session

end BoundKey
