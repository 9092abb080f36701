import BoundKey.Program

set_option autoImplicit false

/-!
Runs of programs. A program with a continuation runs the one and then the other;
a program that makes no calls comes to the same end in every state and leaves
the state alone; and a program that makes one call is settled by the answer.
-/

namespace BoundKey

@[simp] theorem mapError_eq_ok_iff
    {α fault other : Type} {result : Except fault α} {classify : fault → other}
    {value : α} : result.mapError classify = .ok value ↔ result = .ok value := by
  cases result with
  | ok found =>
      constructor
      · intro same
        cases same
        rfl
      · intro same
        cases same
        rfl
  | error fault => exact ⟨nofun, nofun⟩

theorem mapError_eq_error_iff {α fault other : Type} {result : Except fault α}
    {classify : fault → other} {cause : other} :
    result.mapError classify = .error cause ↔
      ∃ found, result = .error found ∧ classify found = cause := by
  cases result with
  | ok value =>
      constructor
      · exact nofun
      · rintro ⟨found, same, _⟩
        cases same
  | error found =>
      constructor
      · exact fun same => ⟨found, rfl, Except.error.inj same⟩
      · rintro ⟨first, same, classified⟩
        rw [← classified, Except.error.inj same]
        rfl

theorem map_eq_ok_iff {α β fault : Type} {result : Except fault α}
    {change : α → β} {value : β} :
    result.map change = .ok value ↔
      ∃ found, result = .ok found ∧ change found = value := by
  cases result with
  | ok found =>
      constructor
      · exact fun same => ⟨found, rfl, Except.ok.inj same⟩
      · rintro ⟨other, same, changed⟩
        rw [← changed, Except.ok.inj same]
        rfl
  | error fault =>
      constructor
      · exact nofun
      · rintro ⟨other, same, _⟩
        cases same

theorem bind_eq_ok_iff {α β fault : Type} {result : Except fault α}
    {next : α → Except fault β} {value : β} :
    (result >>= next) = .ok value ↔
      ∃ middle, result = .ok middle ∧ next middle = .ok value := by
  cases result with
  | ok found =>
      constructor
      · exact fun same => ⟨found, rfl, same⟩
      · rintro ⟨middle, same, later⟩
        cases same
        exact later
  | error fault =>
      constructor
      · exact nofun
      · rintro ⟨middle, same, later⟩
        cases same

theorem map_eq_error_iff {α β fault : Type} {result : Except fault α}
    {change : α → β} {cause : fault} :
    result.map change = .error cause ↔ result = .error cause := by
  cases result with
  | ok found => exact ⟨nofun, nofun⟩
  | error other =>
      constructor
      · exact fun failed => congrArg _ (Except.error.inj failed)
      · exact fun failed => congrArg _ (Except.error.inj failed)

theorem bind_eq_error_iff {α β fault : Type} {result : Except fault α}
    {next : α → Except fault β} {cause : fault} :
    (result >>= next) = .error cause ↔
      result = .error cause ∨ ∃ middle, result = .ok middle ∧
        next middle = .error cause := by
  cases result with
  | ok found =>
      constructor
      · exact fun failed => .inr ⟨found, rfl, failed⟩
      · rintro (failed | ⟨_, same, failed⟩)
        · cases failed
        · cases same
          exact failed
  | error other =>
      constructor
      · exact fun failed => .inl (congrArg _ (Except.error.inj failed))
      · rintro (failed | ⟨_, same, _⟩)
        · exact congrArg _ (Except.error.inj failed)
        · cases same

namespace Program

variable {interface : Interface} {α β σ : Type}

/-! ### Runs -/

@[simp] theorem run_done (handler : Handler interface σ) (state : σ) (value : α) :
    run handler state (.done value) = (some value, state, []) := rfl

@[simp] theorem run_abort (handler : Handler interface σ) (state : σ) :
    run handler state (.abort : Program interface α) = (none, state, []) := rfl

theorem run_emit (handler : Handler interface σ) (state : σ) (signal : Signal)
    (rest : Program interface α) : run handler state (.emit signal rest) =
      ((run handler state rest).1, (run handler state rest).2.1,
        signal :: (run handler state rest).2.2) := rfl

theorem run_call (handler : Handler interface σ) (state : σ)
    (request : interface.Call)
    (next : Option (interface.Answer request) → Program interface α) :
    run handler state (.call request next) =
      let answered := handler state request
      let later := run handler answered.2.1 (next answered.1)
      (later.1, later.2.1, answered.2.2 ++ later.2.2) := rfl

theorem run_bind (handler : Handler interface σ) (state : σ)
    (program : Program interface α) (next : α → Program interface β) :
    run handler state (program >>= next) =
      match run handler state program with
      | (some value, middle, early) =>
        let later := run handler middle (next value)
        (later.1, later.2.1, early ++ later.2.2)
      | (none, last, signals) => (none, last, signals) := by
  change run handler state (program.bind next) = _
  induction program generalizing state with
  | done value => rfl
  | abort => rfl
  | emit signal rest ih =>
      rw [bind, run_emit, ih, run_emit]
      rcases run handler state rest with ⟨value, middle, early⟩
      cases value with
      | none => rfl
      | some value => rfl
  | call request rest ih =>
      rw [bind, run_call, run_call]
      dsimp only
      rw [ih]
      rcases run handler (handler state request).2.1
        (rest (handler state request).1) with ⟨value, middle, early⟩
      cases value with
      | none => rfl
      | some value =>
          dsimp only
          rw [List.append_assoc]

theorem run_ensuring (handler : Handler interface σ) (state : σ) (last : Signal)
    (program : Program interface α) :
    (run handler state (program.ensuring last)).1 =
      (run handler state program).1 ∧
      (run handler state (program.ensuring last)).2.1 =
        (run handler state program).2.1 := by
  induction program generalizing state with
  | done value => exact ⟨rfl, rfl⟩
  | abort => exact ⟨rfl, rfl⟩
  | emit signal rest ih => exact ih state
  | call request rest ih =>
      exact ih (handler state request).1 (handler state request).2.1

/-! ### The calls of a run -/

/-- The calls that a program makes when it is run, in order, those that break
off included. -/
def calls (handler : Handler interface σ) :
    σ → Program interface α → List interface.Call
  | _, .done _ => []
  | _, .abort => []
  | state, .emit _ rest => calls handler state rest
  | state, .call request rest =>
      request :: calls handler (handler state request).2.1
        (rest (handler state request).1)

theorem calls_bind (handler : Handler interface σ) (state : σ)
    (program : Program interface α) (next : α → Program interface β) :
    calls handler state (program >>= next) = calls handler state program ++
      match run handler state program with
      | (some value, middle, _) => calls handler middle (next value)
      | (none, _, _) => [] := by
  change calls handler state (program.bind next) = _
  induction program generalizing state with
  | done value => rfl
  | abort => rfl
  | emit signal rest ih =>
      rw [bind, calls, ih, calls, run_emit]
      rcases run handler state rest with ⟨value, middle, early⟩
      cases value with
      | none => rfl
      | some value => rfl
  | call request rest ih =>
      rw [bind, calls, ih, calls, run_call, List.cons_append]
      dsimp only
      rcases run handler (handler state request).2.1
        (rest (handler state request).1) with ⟨value, middle, early⟩
      cases value with
      | none => rfl
      | some value => rfl

/-! ### Programs that make no calls -/

/-- A program that makes no calls. -/
inductive Quiet : Program interface α → Prop where
  | done (value : α) : Quiet (.done value)
  | abort : Quiet .abort
  | emit (signal : Signal) {rest : Program interface α} (quiet : Quiet rest) :
    Quiet (.emit signal rest)

/-- A program that makes exactly one call, whatever the answer. -/
inductive Once : Program interface α → Prop where
  | emit (signal : Signal) {rest : Program interface α} (once : Once rest) :
    Once (.emit signal rest)
  | call (request : interface.Call)
      {next : Option (interface.Answer request) → Program interface α}
      (quiet : ∀ answer, Quiet (next answer)) : Once (.call request next)

def silent : Program interface α → Option α
  | .done value => some value
  | .abort => none
  | .emit _ rest => rest.silent
  | .call _ _ => none

theorem Quiet.run_eq {program : Program interface α} (quiet : program.Quiet)
    (handler : Handler interface σ)
    (state : σ) : (run handler state program).1 = program.silent ∧
      (run handler state program).2.1 = state := by
  induction quiet with
  | done value => exact ⟨rfl, rfl⟩
  | abort => exact ⟨rfl, rfl⟩
  | emit signal _ ih => exact ih

theorem Quiet.calls_eq {program : Program interface α} (quiet : program.Quiet)
    (handler : Handler interface σ)
    (state : σ) : calls handler state program = [] := by
  induction quiet with
  | done value => rfl
  | abort => rfl
  | emit signal _ ih => exact ih

theorem Quiet.bind {program : Program interface α} (quiet : program.Quiet)
    {next : α → Program interface β}
    (follows : ∀ value, (next value).Quiet) : (program >>= next).Quiet := by
  change (program.bind next).Quiet
  induction quiet with
  | done value => exact follows value
  | abort => exact .abort
  | emit signal _ ih => exact .emit signal ih

theorem Once.bind {program : Program interface α} (once : program.Once)
    {next : α → Program interface β}
    (follows : ∀ value, (next value).Quiet) : (program >>= next).Once := by
  change (program.bind next).Once
  induction once with
  | emit signal _ ih => exact .emit signal ih
  | call request quiet =>
      exact .call request fun answer => (quiet answer).bind follows

theorem Quiet.ensuring (last : Signal) {program : Program interface α}
    (quiet : program.Quiet) : (program.ensuring last).Quiet := by
  induction quiet with
  | done value => exact .emit last (.done value)
  | abort => exact .emit last .abort
  | emit signal _ ih => exact .emit signal ih

theorem Once.ensuring (last : Signal) {program : Program interface α}
    (once : program.Once) : (program.ensuring last).Once := by
  induction once with
  | emit signal _ ih => exact .emit signal ih
  | call request quiet =>
      exact .call request fun answer => (quiet answer).ensuring last

theorem quiet_log (event : LogEvent) :
    (log event : Program interface Unit).Quiet :=
  .emit (.log event) (.done ())

theorem once_perform (interface : Interface) (request : interface.Call) :
    (perform interface request).Once := by
  refine .call request ?_
  intro answer
  cases answer with
  | none => exact .abort
  | some answer => exact .done answer

end Program

namespace Operation

variable {interface : Interface} {α β σ : Type}

/-! ### Operations -/

theorem ofExcept_bind (result : Except Failure α)
    (next : α → Operation interface β) :
    (ofExcept result >>= next) = match result with
      | .ok value => next value
      | .error failure => ofExcept (.error failure) := by
  cases result with
  | ok value => rfl
  | error failure => rfl

theorem ofExcept_bind_ofExcept (result : Except Failure α)
    (next : α → Except Failure β) :
    (ofExcept result >>= fun value => ofExcept (next value)) =
      (ofExcept (result >>= next) : Operation interface β) := by
  cases result with
  | ok value => rfl
  | error failure => rfl

/-- Logging a failure changes neither value nor state. -/
theorem run_reporting (handler : Program.Handler interface σ) (state : σ)
    (method : Method) (operation : Operation interface α) :
    (Program.run handler state (operation.reporting method).run).1 =
      (Program.run handler state operation.run).1 ∧
      (Program.run handler state (operation.reporting method).run).2.1 =
        (Program.run handler state operation.run).2.1 := by
  change (Program.run handler state (operation.run >>= _)).1 = _ ∧
    (Program.run handler state (operation.run >>= _)).2.1 = _
  rw [Program.run_bind]
  rcases Program.run handler state operation.run with ⟨value, middle, early⟩
  cases value with
  | none => exact ⟨rfl, rfl⟩
  | some result =>
      cases result with
      | ok value => exact ⟨rfl, rfl⟩
      | error failure => exact ⟨rfl, rfl⟩

theorem calls_reporting (handler : Program.Handler interface σ) (state : σ)
    (method : Method) (operation : Operation interface α) :
    Program.calls handler state (operation.reporting method).run =
      Program.calls handler state operation.run := by
  change Program.calls handler state (operation.run >>= _) = _
  rw [Program.calls_bind]
  rcases Program.run handler state operation.run with ⟨value, middle, signals⟩
  cases value with
  | none => exact List.append_nil _
  | some result =>
      cases result with
      | ok value => exact List.append_nil _
      | error failure => exact List.append_nil _

theorem quiet_ofExcept (result : Except Failure α) :
    (ofExcept result : Operation interface α).run.Quiet :=
  .done result

theorem quiet_bind {operation : Operation interface α}
    (quiet : operation.run.Quiet)
    {next : α → Operation interface β}
    (follows : ∀ value, (next value).run.Quiet) :
    (operation >>= next).run.Quiet := by
  apply Program.Quiet.bind quiet
  intro result
  cases result with
  | ok value => exact follows value
  | error failure => exact .done _

theorem once_bind {operation : Operation interface α} (once : operation.run.Once)
    {next : α → Operation interface β}
    (follows : ∀ value, (next value).run.Quiet) :
    (operation >>= next).run.Once := by
  apply Program.Once.bind once
  intro result
  cases result with
  | ok value => exact follows value
  | error failure => exact .done _

theorem run_bind_of_quiet (handler : Program.Handler interface σ) (state : σ)
    (operation : Operation interface α)
    {next : α → Operation interface β}
    (follows : ∀ value, (next value).run.Quiet) :
    (Program.run handler state (operation >>= next).run).1 =
      ((Program.run handler state operation.run).1).bind (fun
        | .ok value => (next value).run.silent
        | .error failure => some (.error failure)) ∧
    (Program.run handler state (operation >>= next).run).2.1 =
      (Program.run handler state operation.run).2.1 := by
  change (Program.run handler state
    (operation.run >>= ExceptT.bindCont next)).1 = _ ∧
    (Program.run handler state (operation.run >>= ExceptT.bindCont next)).2.1 = _
  rw [Program.run_bind]
  rcases Program.run handler state operation.run with ⟨value, middle, early⟩
  cases value with
  | none => exact ⟨rfl, rfl⟩
  | some result =>
      cases result with
      | error failure => exact ⟨rfl, rfl⟩
      | ok value => exact (follows value).run_eq handler middle

private theorem quiet_report (method : Method) (result : Except Failure α) :
    (match result with
      | .ok value => pure (.ok value)
      | .error failure => do
        Program.log (.operationFailed method failure)
        pure (.error failure) : Program interface (Except Failure α)).Quiet := by
  cases result with
  | ok value => exact .done _
  | error failure => exact .emit _ (.done _)

theorem quiet_reporting (method : Method) {operation : Operation interface α}
    (quiet : operation.run.Quiet) : (operation.reporting method).run.Quiet :=
  Program.Quiet.bind quiet (quiet_report method)

theorem once_reporting (method : Method) {operation : Operation interface α}
    (once : operation.run.Once) : (operation.reporting method).run.Once :=
  Program.Once.bind once (quiet_report method)

end Operation

end BoundKey
