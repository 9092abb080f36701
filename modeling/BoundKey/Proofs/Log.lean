import BoundKey.Proofs.Program

set_option autoImplicit false

/-!
What is logged in a run at the levels that matter, warnings and errors. Some of
it is logged behind the calls, by whatever handles them; the rest is logged by
the program. Operations are put together of parts that warn of an answer that
makes them fail and log no error, and of parts whose failure is reported; so of
a failure there is one report, and it is the last thing that is logged.
-/

namespace BoundKey

/-! ### Warnings and errors -/

def LogEvent.isSerious (event : LogEvent) : Bool :=
  event.level = .warn || event.level = .error

def Signal.serious? : Signal → Option LogEvent
  | .log event => if event.isSerious then some event else none
  | .mark _ => none

def serious (signals : List Signal) : List LogEvent :=
  signals.filterMap Signal.serious?

@[simp] theorem serious_nil : serious [] = [] := rfl

@[simp] theorem serious_append (signals more : List Signal) :
    serious (signals ++ more) = serious signals ++ serious more :=
  List.filterMap_append

@[simp] theorem serious_mark (marker : Marker) (signals : List Signal) :
    serious (.mark marker :: signals) = serious signals := rfl

theorem serious_log_of_light {event : LogEvent}
    (light : event.isSerious = false) (signals : List Signal) :
    serious (.log event :: signals) = serious signals :=
  List.filterMap_cons_none (if_neg (Bool.not_eq_true _ ▸ light))

/-! ### The calls of a run and their answers -/

/-- A call, its answer, and the signals on the way to it; `none` stands for a
call that broke off. -/
structure Exchange (interface : Interface) where
  request : interface.Call
  answer : Option (interface.Answer request)
  signals : List Signal

namespace Program

variable {interface : Interface} {α β σ : Type}

def signals (handler : Handler interface σ) (state : σ)
    (program : Program interface α) : List Signal :=
  (run handler state program).2.2

def transcript (handler : Handler interface σ) :
    σ → Program interface α → List (Exchange interface)
  | _, .done _ => []
  | _, .abort => []
  | state, .emit _ rest => transcript handler state rest
  | state, .call request rest =>
    ⟨request, (handler state request).1, (handler state request).2.2⟩ ::
      transcript handler (handler state request).2.1
        (rest (handler state request).1)

theorem transcript_bind (handler : Handler interface σ) (state : σ)
    (program : Program interface α) (next : α → Program interface β) :
    transcript handler state (program >>= next) =
      transcript handler state program ++ match run handler state program with
      | (some value, middle, _) => transcript handler middle (next value)
      | (none, _, _) => [] := by
  change transcript handler state (program.bind next) = _
  induction program generalizing state with
  | done value => rfl
  | abort => rfl
  | emit signal rest ih =>
      rw [bind, transcript, ih, transcript, run_emit]
      rcases run handler state rest with ⟨value, middle, early⟩
      cases value with
      | none => rfl
      | some value => rfl
  | call request rest ih =>
      rw [bind, transcript, ih, transcript, run_call, List.cons_append]
      dsimp only
      rcases run handler (handler state request).2.1
        (rest (handler state request).1) with ⟨value, middle, early⟩
      cases value with
      | none => rfl
      | some value => rfl

theorem transcript_ensuring (handler : Handler interface σ)
    (state : σ) (last : Signal) (program : Program interface α) :
    transcript handler state (program.ensuring last) =
      transcript handler state program := by
  induction program generalizing state with
  | done value => rfl
  | abort => rfl
  | emit signal rest ih => exact ih state
  | call request rest ih => rw [ensuring, transcript, transcript, ih]

theorem Quiet.transcript_eq {program : Program interface α}
    (quiet : program.Quiet) (handler : Handler interface σ)
    (state : σ) : transcript handler state program = [] := by
  induction quiet with
  | done value => rfl
  | abort => rfl
  | emit signal _ ih => exact ih

theorem serious_transcript {handler : Handler interface σ}
    (light : ∀ state request, serious (handler state request).2.2 = [])
    (state : σ) (program : Program interface α) :
    serious ((transcript handler state program).flatMap Exchange.signals) =
      [] := by
  induction program generalizing state with
  | done value => rfl
  | abort => rfl
  | emit signal rest ih => exact ih state
  | call request rest ih =>
      rw [transcript, List.flatMap_cons, serious_append, light,
        ih, List.append_nil]

theorem signals_ensuring (handler : Handler interface σ) (state : σ)
    (last : Signal) (program : Program interface α) :
    signals handler state (program.ensuring last) =
      signals handler state program ++ [last] := by
  induction program generalizing state with
  | done value => rfl
  | abort => rfl
  | emit signal rest ih => exact congrArg _ (ih state)
  | call request rest ih =>
      rw [ensuring, signals, run_call, signals, run_call, List.append_assoc]
      exact congrArg _ (ih (handler state request).1 (handler state request).2.1)

end Program

/-! ### Operations that account for what makes them fail -/

/-- Answers by which an operation is to fail: the fault in such an answer, how
it is warned of, and how it shows. -/
structure Watch (interface : Interface) where
  Fault : Type
  fault? : (request : interface.Call) →
    Option (interface.Answer request) → Option Fault
  warning : Fault → LogEvent
  failure : Fault → Failure

def failureIn {α : Type} (value : Option (Except Failure α)) : Option Failure :=
  value.bind fun
    | .ok _ => none
    | .error failure => some failure

/-- Events that report a failure: a single error with its code and its wording,
or nothing if there is no failure. -/
def IsReport : Option Failure → List LogEvent → Prop
  | none, events => events = []
  | some failure, events => ∃ event, events = [event] ∧ event.level = .error ∧
      ("code", .text failure.code) ∈ event.fields ∧
      ("error", .text failure.message) ∈ event.fields

theorem isReport_operationFailed (method : Method) (failure : Failure) :
    IsReport (some failure) [.operationFailed method failure] :=
  ⟨_, rfl, rfl, .tail _ (.head _), .tail _ (.tail _ (.head _))⟩

namespace Watch

variable {interface : Interface} {α β : Type}

def faults (watch : Watch interface) (exchanges : List (Exchange interface)) :
    List watch.Fault :=
  exchanges.filterMap fun exchange =>
    watch.fault? exchange.request exchange.answer

/-- Of the signals of a run: the warnings and errors on the way of the calls
come first, then those of the operation, one warning of each faulty answer and
the report of the failure. At most one answer is faulty, and the failure is that
of its fault. -/
structure Account (watch : Watch interface)
    (report : Option Failure → List LogEvent → Prop)
    (failed : Option Failure) (signals : List Signal)
    (exchanges : List (Exchange interface)) : Prop where
  logs : ∃ events, report failed events ∧ serious signals =
    serious (exchanges.flatMap Exchange.signals) ++ (watch.faults exchanges).map
      watch.warning ++ events
  fails : watch.faults exchanges = [] ∨
    ∃ fault, watch.faults exchanges = [fault] ∧
      failed = some (watch.failure fault)

structure Accounts (watch : Watch interface)
    (report : Option Failure → List LogEvent → Prop)
    (operation : Operation interface α) : Prop where
  account : ∀ {σ : Type} (handler : Program.Handler interface σ) (state : σ),
    watch.Account report (failureIn (Program.run handler state operation.run).1)
      (Program.signals handler state operation.run)
      (Program.transcript handler state operation.run)

abbrev Warns (watch : Watch interface) (operation : Operation interface α) :
    Prop :=
  watch.Accounts (fun _ events => events = []) operation

abbrev Reports (watch : Watch interface) (operation : Operation interface α) :
    Prop :=
  watch.Accounts IsReport operation

variable {watch : Watch interface}
  {report : Option Failure → List LogEvent → Prop}

theorem Account.append (silent : ∀ events, report none events → events = [])
    {failed : Option Failure} {signals more : List Signal}
    {exchanges others : List (Exchange interface)}
    (first : watch.Account report none signals exchanges)
    (later : watch.Account report failed more others) :
    watch.Account report failed (signals ++ more) (exchanges ++ others) := by
  obtain ⟨events, quiet, early⟩ := first.logs
  obtain ⟨reported, isReport, late⟩ := later.logs
  have faultless : watch.faults exchanges = [] := by
    rcases first.fails with faultless | ⟨_, _, failed⟩
    · exact faultless
    · cases failed
  have faults : watch.faults (exchanges ++ others) = watch.faults others := by
    rw [Watch.faults, List.filterMap_append, ← Watch.faults, ← Watch.faults,
      faultless, List.nil_append]
  constructor
  · refine ⟨reported, isReport, ?_⟩
    rw [serious_append, early, late, faults, faultless, silent events quiet,
      List.flatMap_append, serious_append]
    simp only [List.map_nil, List.append_nil, List.append_assoc]
  · rw [faults]
    exact later.fails

/-- A part that fails is the last one, so its report stands for the whole. -/
theorem Accounts.bind (silent : ∀ events, report none events → events = [])
    {operation : Operation interface α}
    (first : watch.Accounts report operation) {next : α → Operation interface β}
    (later : ∀ value, watch.Accounts report (next value)) :
    watch.Accounts report (operation >>= next) := by
  constructor
  intro σ handler state
  have before := first.account handler state
  change watch.Account report
    (failureIn (Program.run handler state
      (operation.run >>= ExceptT.bindCont next)).1)
    (Program.signals handler state (operation.run >>= ExceptT.bindCont next))
    (Program.transcript handler state (operation.run >>= ExceptT.bindCont next))
  rw [Program.signals] at before ⊢
  rw [Program.run_bind, Program.transcript_bind]
  rcases ran : Program.run handler state operation.run with ⟨value, middle, early⟩
  rw [ran] at before
  cases value with
  | none =>
      dsimp only
      rw [List.append_nil]
      exact before
  | some result =>
      cases result with
      | error failure =>
          -- The continuation is passed over, and adds neither signals nor
          -- calls.
          change watch.Account report (some failure) (early ++ []) (_ ++ [])
          rw [List.append_nil, List.append_nil]
          exact before
      | ok value =>
          exact before.append silent ((later value).account handler middle)

theorem Warns.bind {operation : Operation interface α}
    (first : watch.Warns operation)
    {next : α → Operation interface β}
    (later : ∀ value, watch.Warns (next value)) :
    watch.Warns (operation >>= next) :=
  Accounts.bind (fun _ nothing => nothing) first later

theorem Reports.bind {operation : Operation interface α}
    (first : watch.Reports operation)
    {next : α → Operation interface β}
    (later : ∀ value, watch.Reports (next value)) :
    watch.Reports (operation >>= next) :=
  Accounts.bind (fun _ nothing => nothing) first later

theorem warns_ofExcept (result : Except Failure α) :
    watch.Warns (Operation.ofExcept result) :=
  ⟨fun _ _ => ⟨⟨[], rfl, rfl⟩, .inl rfl⟩⟩

theorem account_call (silent : report none []) {request : interface.Call}
    {answer : Option (interface.Answer request)}
    (faultless : watch.fault? request answer = none) (early : List Signal)
    {late : List Signal} (light : serious late = []) :
    watch.Account report none (early ++ late) [⟨request, answer, early⟩] := by
  have spared : watch.faults [⟨request, answer, early⟩] = [] :=
    List.filterMap_cons_none faultless
  refine ⟨⟨[], silent, ?_⟩, .inl spared⟩
  simp only [spared, light, serious_append, List.flatMap_cons, List.flatMap_nil,
    List.map_nil, List.append_nil]

theorem warns_perform {request : interface.Call}
    (faultless : ∀ answer, watch.fault? request answer = none) :
    watch.Warns (ExceptT.lift (Program.perform interface request)) := by
  constructor
  intro σ handler state
  change watch.Account
    _ (failureIn (Program.run handler state (.call request _)).1)
    (Program.signals handler state (.call request _))
    (Program.transcript handler state (.call request _))
  rw [Program.signals, Program.run_call, Program.transcript]
  rcases handler state request with ⟨answer, middle, early⟩
  cases answer with
  | none => exact account_call rfl (faultless none) early rfl
  | some answer => exact account_call rfl (faultless (some answer)) early rfl

theorem reports_pure (value : α) :
    watch.Reports (pure value : Operation interface α) :=
  ⟨fun _ _ => ⟨⟨[], rfl, rfl⟩, .inl rfl⟩⟩

theorem accounts_log (silent : report none []) {event : LogEvent}
    (light : event.isSerious = false) :
    watch.Accounts report (Operation.log event) :=
  ⟨fun _ _ => ⟨⟨[], silent, serious_log_of_light light []⟩, .inl rfl⟩⟩

theorem Warns.concluded {operation : Operation interface α}
    (warns : watch.Warns operation)
    {next : Except Failure α → Program interface β} (silent : report none [])
    (quiet : ∀ result, (next result).Quiet)
    (told : ∀ {σ : Type} (handler : Program.Handler interface σ) (state : σ)
      (result : Except Failure α),
      report (failureIn (some result))
        (serious (Program.signals handler state (next result))))
    {σ : Type} (handler : Program.Handler interface σ) (state : σ) :
    watch.Account report (failureIn (Program.run handler state operation.run).1)
      (Program.signals handler state (operation.run >>= next))
      (Program.transcript handler state (operation.run >>= next)) := by
  have before := warns.account handler state
  rw [Program.signals] at before
  obtain ⟨events, nothing, logged⟩ := before.logs
  cases nothing
  rw [Program.signals, Program.run_bind, Program.transcript_bind]
  rcases ran : Program.run handler state operation.run with ⟨value, middle, early⟩
  rw [ran] at before logged
  cases value with
  | none =>
      dsimp only
      rw [List.append_nil]
      exact ⟨⟨[], silent, logged⟩, before.fails⟩
  | some result =>
      dsimp only
      rw [(quiet result).transcript_eq, List.append_nil]
      refine ⟨⟨_, told handler middle result, ?_⟩, before.fails⟩
      rw [serious_append, logged, List.append_nil]
      rfl

theorem Warns.reporting {operation : Operation interface α}
    (warns : watch.Warns operation) (method : Method) :
    watch.Reports (operation.reporting method) := by
  constructor
  intro σ handler state
  rw [(Operation.run_reporting handler state method operation).1]
  refine warns.concluded rfl ?_ ?_ handler state
  · intro result
    cases result with
    | ok value => exact .done _
    | error failure => exact .emit _ (.done _)
  · intro σ handler state result
    cases result with
    | ok value => rfl
    | error failure => exact isReport_operationFailed method failure

theorem Accounts.marked {operation : Operation interface α}
    (accounts : watch.Accounts report operation)
    (first last : Marker) :
    watch.Accounts report (ExceptT.mk
      (.emit (.mark first) (Program.ensuring (.mark last) operation.run))) := by
  constructor
  intro σ handler state
  obtain ⟨events, reported, logged⟩ := (accounts.account handler state).logs
  change watch.Account report
    (failureIn (Program.run handler state
      (Program.ensuring (.mark last) operation.run)).1)
    (.mark first :: Program.signals handler state
      (Program.ensuring (.mark last) operation.run))
    (Program.transcript handler state
      (Program.ensuring (.mark last) operation.run))
  rw [(Program.run_ensuring handler state _ operation.run).1,
    Program.signals_ensuring, Program.transcript_ensuring]
  refine ⟨⟨events, reported, ?_⟩, (accounts.account handler state).fails⟩
  rw [serious_mark, serious_append, serious_mark, serious_nil, List.append_nil]
  exact logged

end Watch

end BoundKey
