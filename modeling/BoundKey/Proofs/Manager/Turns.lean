import BoundKey.Proofs.Manager.Interleaving

set_option autoImplicit false

/-!
Clients that share a manager over a store of which nothing is known. Any call
may be answered in any way, or break off, and what the store holds need not have
to do with its answers. Whoever is on the way with an operation takes its next
turn when it comes to it, and what an operation has still to do follows from its
own events alone.
-/

namespace BoundKey

/-! ### Steps and what is seen of them -/

inductive Trace {σ ε : Type} (step : σ → ε → σ → Prop) (start : σ) :
    List ε → σ → Prop where
  | stay : Trace step start [] start
  | step {events : List ε} {middle last : σ} {event : ε}
      (trace : Trace step start events middle)
      (made : step middle event last) : Trace step start (events ++ [event]) last

namespace Trace

variable {σ ε : Type} {step : σ → ε → σ → Prop} {start last : σ}
  {events front back : List ε} {event : ε}

theorem split (trace : Trace step start (front ++ event :: back) last) :
    ∃ before after, Trace step start front before ∧ step before event after ∧
      Trace step after back last := by
  generalize whole : front ++ event :: back = events at trace
  induction trace generalizing back with
  | stay =>
      exact absurd whole (List.append_ne_nil_of_right_ne_nil
        _ (List.cons_ne_nil _ _))
  | step trace made ih =>
      rcases List.eq_nil_or_concat back with none | ⟨others, final, more⟩
      · rw [none] at whole
        obtain ⟨sameFront, sameEvent⟩ := List.append_inj' whole rfl
        cases sameFront
        cases sameEvent
        exact ⟨_, _, trace, made, none ▸ .stay⟩
      · rw [more, List.concat_eq_append, ← List.cons_append,
          ← List.append_assoc] at whole
        obtain ⟨sameFront, sameEvent⟩ := List.append_inj' whole rfl
        cases sameEvent
        obtain ⟨before, after, upTo, here, onward⟩ := ih sameFront
        refine ⟨before, after, upTo, here, ?_⟩
        rw [more, List.concat_eq_append]
        exact .step onward made

theorem trans {middle : σ} (first : Trace step start front middle)
    (second : Trace step middle back last) :
    Trace step start (front ++ back) last := by
  induction second with
  | stay =>
      rw [List.append_nil]
      exact first
  | step trace made ih =>
      rw [← List.append_assoc]
      exact .step ih made

/-- What is seen of steps that are taken on cues one after the other, and the
state after them; nothing if one of them cannot be taken. -/
def play? {μ : Type} (step? : σ → μ → Option (ε × σ)) (start : σ) :
    List μ → Option (List ε × σ)
  | [] => some ([], start)
  | cue :: rest =>
    (step? start cue).bind fun (event, next) =>
      (play? step? next rest).map fun (events, last) => (event :: events, last)

theorem of_play? {μ : Type} {step? : σ → μ → Option (ε × σ)}
    (sound : ∀ {before cue event after},
      step? before cue = some (event, after) → step before event after)
    {cues : List μ} (played : play? step? start cues = some (events, last)) :
    Trace step start events last := by
  induction cues generalizing start events with
  | nil =>
      cases played
      exact .stay
  | cons cue rest ih =>
      obtain ⟨⟨event, next⟩, taken, later⟩ := Option.bind_eq_some_iff.1 played
      obtain ⟨⟨more, final⟩, playedLater, same⟩ := Option.map_eq_some_iff.1 later
      cases same
      exact Trace.trans (.step .stay (sound taken)) (ih playedLater)

end Trace

variable {Client ρ σ α : Type}

/-! ### Turns -/

/-- An operation on its way takes its next turn: what is seen of it, the store
afterwards and what is left of it. -/
def Pending.advance (stores : ρ → Program.Handler StoreInterface σ) (choice : ρ)
    (store : σ) (client : Client) :
    Pending → Event Client ρ σ × σ × Option Pending
  | ⟨operation, .done value⟩ => (.finished client operation value, store, none)
  | ⟨operation, .abort⟩ => (.brokeOff client operation, store, none)
  | ⟨operation, .emit signal rest⟩ =>
      (.emitted client signal, store, some ⟨operation, rest⟩)
  | ⟨operation, .call request next⟩ =>
    let answered := stores choice store request
    (.touched client choice request store answered.2.1, answered.2.1,
      some ⟨operation, next answered.1⟩)

theorem Pending.advance_client (stores : ρ → Program.Handler StoreInterface σ)
    (choice : ρ) (store : σ) (client : Client) (pending : Pending) :
    (pending.advance stores choice store client).1.client = client := by
  obtain ⟨operation, rest⟩ := pending
  cases rest with
  | done | abort | emit | call => rfl

namespace System

variable [DecidableEq Client]

/-- A client that does nothing starts an operation, or one whose operation is on
its way goes on with it. -/
inductive Turn (stores : ρ → Program.Handler StoreInterface σ)
    (manager : Manager) :
    System Client σ → Event Client ρ σ → System Client σ → Prop where
  | start {system : System Client σ} {client : Client} (operation : ManagerCall)
      (idle : system.pending client = none) :
      Turn stores manager system (.started client operation)
        (system.put client (some ⟨operation, operation.program manager⟩))
  | goOn {system : System Client σ} {client : Client}
      {pending : Pending} (choice : ρ)
      (here : system.pending client = some pending) :
      Turn stores manager system
        (pending.advance stores choice system.store client).1
        ({ system with
          store := (pending.advance stores choice system.store client).2.1 }.put
          client (pending.advance stores choice system.store client).2.2)

inductive Cue (Client ρ : Type) where
  | start (client : Client) (operation : ManagerCall)
  | goOn (client : Client) (choice : ρ)

def turn? (stores : ρ → Program.Handler StoreInterface σ) (manager : Manager)
    (system : System Client σ) :
    Cue Client ρ → Option (Event Client ρ σ × System Client σ)
  | .start client operation =>
    if (system.pending client).isSome then none
    else some (.started client operation,
      system.put client (some ⟨operation, operation.program manager⟩))
  | .goOn client choice =>
    (system.pending client).map fun pending =>
      let (event, store, next) :=
        pending.advance stores choice system.store client
      (event, { system with store }.put client next)

variable {stores : ρ → Program.Handler StoreInterface σ} {manager : Manager}
  {start before after last : System Client σ}
  {events : List (Event Client ρ σ)} {event : Event Client ρ σ}

theorem Turn.pending_other (turn : Turn stores manager before event after)
    {other : Client} (different : other ≠ event.client) :
    after.pending other = before.pending other := by
  cases turn with
  | start operation idle => exact put_other _ different _
  | goOn choice here =>
      rw [Pending.advance_client] at different
      exact put_other _ different _

theorem Turn.started {client : Client} {operation : ManagerCall}
    (turn : Turn stores manager before (.started client operation) after) :
    before.pending client = none ∧
      after.pending client = some ⟨operation, operation.program manager⟩ := by
  generalize seen : Event.started client operation = event at turn
  cases turn with
  | start operation idle =>
      cases seen
      exact ⟨idle, put_same _ _ _⟩
  | @goOn client pending choice here =>
      obtain ⟨operation, rest⟩ := pending
      cases rest with
      | done | abort | emit | call => cases seen

theorem Turn.of_idle (turn : Turn stores manager before event after)
    (idle : before.pending event.client = none) :
    ∃ operation, event = .started event.client operation := by
  cases turn with
  | start operation idle => exact ⟨operation, rfl⟩
  | goOn choice here =>
      rw [Pending.advance_client] at idle
      cases idle.symm.trans here

theorem Turn.of_pending {pending : Pending}
    (turn : Turn stores manager before event after)
    (here : before.pending event.client = some pending) :
    ∃ choice, event =
      (pending.advance stores choice before.store event.client).1 ∧
      after.pending event.client =
        (pending.advance stores choice before.store event.client).2.2 := by
  cases turn with
  | start operation idle => cases idle.symm.trans here
  | @goOn client present choice there =>
      rw [Pending.advance_client] at here ⊢
      cases there.symm.trans here
      exact ⟨choice, rfl, put_same _ _ _⟩

theorem Turn.finished {client : Client} {operation : ManagerCall}
    {value : operation.Answer}
    (turn : Turn stores manager before (.finished client operation value) after) :
    before.pending client = some ⟨operation, .done value⟩ := by
  generalize seen : Event.finished client operation value = event at turn
  cases turn with
  | start => cases seen
  | @goOn client pending choice here =>
      obtain ⟨operation, rest⟩ := pending
      cases rest with
      | done value =>
          cases seen
          exact here
      | abort | emit | call => cases seen

theorem Turn.brokeOff {client : Client} {operation : ManagerCall}
    (turn : Turn stores manager before (.brokeOff client operation) after) :
    before.pending client = some ⟨operation, .abort⟩ := by
  generalize seen : Event.brokeOff client operation = event at turn
  cases turn with
  | start => cases seen
  | @goOn client pending choice here =>
      obtain ⟨operation, rest⟩ := pending
      cases rest with
      | abort =>
          cases seen
          exact here
      | done | emit | call => cases seen

theorem Turn.emitted {client : Client} {signal : Signal}
    (turn : Turn stores manager before (.emitted client signal) after) :
    ∃ operation rest, before.pending client =
      some ⟨operation, .emit signal rest⟩ := by
  generalize seen : Event.emitted client signal = event at turn
  cases turn with
  | start => cases seen
  | @goOn client pending choice here =>
      obtain ⟨operation, rest⟩ := pending
      cases rest with
      | emit signal rest =>
          cases seen
          exact ⟨operation, rest, here⟩
      | done | abort | call => cases seen

theorem Turn.touched {client : Client} {choice : ρ} {request : StoreCall}
    {first second : σ}
    (turn : Turn stores manager before
      (.touched client choice request first second) after) :
    before.store = first ∧ after.store = second := by
  generalize seen : Event.touched client choice request first
    second = event at turn
  cases turn with
  | start => cases seen
  | @goOn client pending choice here =>
      obtain ⟨operation, rest⟩ := pending
      cases rest with
      | call request next =>
          cases seen
          exact ⟨rfl, rfl⟩
      | done | abort | emit => cases seen

theorem turn_iff_cue : Turn stores manager before event after ↔
    ∃ cue, turn? stores manager before cue = some (event, after) := by
  constructor
  · intro turn
    cases turn with
    | @start client operation idle =>
        refine ⟨.start client operation, ?_⟩
        rw [turn?, idle]
        rfl
    | @goOn client pending choice here =>
        refine ⟨.goOn client choice, ?_⟩
        rw [turn?, here]
        rfl
  · intro taken
    obtain ⟨cue, taken⟩ := taken
    cases cue with
    | start client operation =>
        rw [turn?] at taken
        split at taken
        · cases taken
        · next free =>
            cases taken
            exact .start operation (Option.not_isSome_iff_eq_none.1 free)
    | goOn client choice =>
        obtain ⟨pending, here, same⟩ := Option.map_eq_some_iff.1 taken
        cases same
        exact .goOn choice here

theorem turn_of_turn? {cue : Cue Client ρ}
    (taken : turn? stores manager before cue = some (event, after)) :
    Turn stores manager before event after :=
  turn_iff_cue.2 ⟨cue, taken⟩

/-- Over a store that is known to be honest these are the steps of before. -/
theorem turn_iff_step [Nonempty ρ] {shared : SharedStore ρ σ} :
    Turn shared.handler manager before event after ↔
      Step shared manager before event after := by
  constructor
  · intro turn
    cases turn with
    | start operation idle => exact .start operation idle
    | @goOn client pending choice here =>
        obtain ⟨operation, rest⟩ := pending
        cases rest with
        | done value => exact .finish here
        | abort => exact .breakOff here
        | emit signal rest => exact .emit here
        | call request next => exact .touch choice here
  · intro step
    have choice : ρ := Classical.choice inferInstance
    cases step with
    | start operation idle => exact .start operation idle
    | emit here => exact .goOn choice here
    | touch choice here => exact .goOn choice here
    | finish here => exact .goOn choice here
    | breakOff here => exact .goOn choice here

theorem trace_iff_runs [Nonempty ρ] {shared : SharedStore ρ σ} :
    Trace (Turn shared.handler manager) start events last ↔
      Runs shared manager start events last := by
  constructor
  · intro trace
    induction trace with
    | stay => exact .stay start
    | step trace made ih => exact .step ih (turn_iff_step.1 made)
  · intro runs
    induction runs with
    | stay => exact .stay
    | step runs step ih => exact .step ih (turn_iff_step.2 step)

end System

/-! ### One operation among others -/

/-- How a program has come to what it has still to do, by the events of its
own. -/
inductive Course (stores : ρ → Program.Handler StoreInterface σ) (client : Client)
    (program : Program StoreInterface α) :
    List (Event Client ρ σ) → Program StoreInterface α → Prop where
  | stay : Course stores client program [] program
  | emit {own : List (Event Client ρ σ)} {signal : Signal}
      {rest : Program StoreInterface α}
      (course : Course stores client program own (.emit signal rest)) :
      Course stores client program (own ++ [.emitted client signal]) rest
  | touch {own : List (Event Client ρ σ)} {request : StoreCall}
      {next : Option request.Answer → Program StoreInterface α}
      (choice : ρ) (before : σ)
      (course : Course stores client program own (.call request next)) :
      Course stores client program
        (own ++ [.touched client choice request before
          (stores choice before request).2.1])
        (next (stores choice before request).1)

namespace Course

variable {stores : ρ → Program.Handler StoreInterface σ} {client : Client}
  {program rest : Program StoreInterface α} {own : List (Event Client ρ σ)}

inductive Reached (stores : ρ → Program.Handler StoreInterface σ)
    (client : Client) (program : Program StoreInterface α) :
    List (Event Client ρ σ) → Program StoreInterface α → Prop where
  | ahead {rest : Program StoreInterface α} (sent : List Signal)
      (once : rest.Once)
      (same : ∀ (handler : Program.Handler StoreInterface σ) (state : σ),
        Program.run handler state program =
        ((Program.run handler state rest).1, (Program.run handler state rest).2.1,
          sent ++ (Program.run handler state rest).2.2)) :
      Reached stores client program (sent.map (.emitted client)) rest
  | settled {rest : Program StoreInterface α} (early late : List Signal)
      (choice : ρ) (request : StoreCall)
      {before after : σ} (quiet : rest.Quiet)
      (left : after = (stores choice before request).2.1)
      (same : Program.run (stores choice) before program =
        ((Program.run (stores choice) after rest).1,
          (Program.run (stores choice) after rest).2.1,
          early ++ (stores choice before request).2.2 ++ late
            ++ (Program.run (stores choice) after rest).2.2)) :
      Reached stores client program
        (early.map (.emitted client) ++ .touched client choice request before
          after :: late.map (.emitted client)) rest

theorem of_once (once : program.Once)
    (course : Course stores client program own rest) :
    Reached stores client program own rest := by
  induction course with
  | stay => exact .ahead [] once fun handler state => rfl
  | @emit own signal rest course ih =>
      -- Before the call and after it the signal is one more of those that were
      -- sent.
      generalize left : Program.emit signal rest = whole at ih
      cases ih with
      | ahead sent once same =>
          subst left
          cases once with
          | emit _ later =>
              have more :
                  sent.map (Event.emitted client) ++ [.emitted client signal] =
                  ((sent ++ [signal]).map (.emitted client) :
                    List (Event Client ρ σ)) := by
                simp
              rw [more]
              refine .ahead _ later ?_
              intro handler state
              rw [same, Program.run_emit, List.append_assoc]
              rfl
      | @settled _ early late choice request before after quiet isLeft same =>
          subst left
          cases quiet with
          | emit _ later =>
              have more : early.map (Event.emitted client) ++
                  .touched client choice request before after ::
                    late.map (.emitted client) ++
                  [.emitted client signal] = (early.map (.emitted client) ++
                    .touched client choice request before after ::
                      (late ++ [signal]).map (.emitted client) :
                      List (Event Client ρ σ)) := by
                simp
              rw [more]
              refine .settled early (late ++ [signal]) choice
                request later isLeft ?_
              rw [same, Program.run_emit]
              simp
  | @touch own request next choice before course ih =>
      generalize left : (Program.call request next : Program StoreInterface α) =
        whole at ih
      cases ih with
      | ahead sent once same =>
          subst left
          cases once with
          | call _ quiet =>
              refine .settled sent [] choice request (quiet _) rfl ?_
              rw [same, Program.run_call]
              simp
      | settled early late choice request quiet =>
          subst left
          cases quiet

end Course

namespace System

variable [DecidableEq Client] {stores : ρ → Program.Handler StoreInterface σ}
  {manager : Manager} {start last : System Client σ}
  {events : List (Event Client ρ σ)}

def ownEvents (client : Client) (events : List (Event Client ρ σ)) :
    List (Event Client ρ σ) :=
  events.filter fun event => event.client = client

theorem ownEvents_append (client : Client)
    (events more : List (Event Client ρ σ)) :
    ownEvents client (events ++ more) =
      ownEvents client events ++ ownEvents client more :=
  List.filter_append events more

theorem ownEvents_same {client : Client} {event : Event Client ρ σ}
    (own : event.client = client) : ownEvents client [event] = [event] := by
  simp [ownEvents, own]

theorem ownEvents_other {client : Client} {event : Event Client ρ σ}
    (other : event.client ≠ client) : ownEvents client [event] = [] := by
  simp [ownEvents, other]

/-- Where an operation on its way was started, and what its client has done
since then. -/
structure Since (stores : ρ → Program.Handler StoreInterface σ)
    (manager : Manager) (client : Client)
    (events : List (Event Client ρ σ)) (pending : Pending)
    (earlier during : List (Event Client ρ σ)) : Prop where
  whole : events = earlier ++ .started client pending.operation :: during
  unbound : ∀ event ∈ during, ¬ event.Bounds client
  course : Course stores client (pending.operation.program manager)
    (ownEvents client during) pending.rest

theorem Since.step {client : Client} {pending next : Pending}
    {earlier during : List (Event Client ρ σ)}
    {event : Event Client ρ σ}
    (since : Since stores manager client events pending earlier during)
    (same : next.operation = pending.operation) (unbound : ¬ event.Bounds client)
    (course : Course stores client (next.operation.program manager)
      (ownEvents client during ++ ownEvents client [event]) next.rest) :
    Since stores manager client (events ++ [event]) next earlier
      (during ++ [event]) where
  whole := by
    rw [since.whole, same, List.append_assoc]
    rfl
  unbound := by
    rw [List.forall_mem_append, List.forall_mem_singleton]
    exact ⟨since.unbound, unbound⟩
  course := by
    rw [ownEvents_append]
    exact course

/-- Every operation on its way was started, and has come to what it has still to
do by the events of its client. -/
theorem since_start (trace : Trace (Turn stores manager) start events last)
    (idle : ∀ client, start.pending client = none) {client : Client}
    {pending : Pending} (here : last.pending client = some pending) :
    ∃ earlier during, Since stores manager client events pending
      earlier during := by
  induction trace generalizing client pending with
  | stay =>
      rw [idle client] at here
      cases here
  | @step events middle last event trace turn ih =>
      by_cases own : client = event.client
      · cases turn with
        | start operation unoccupied =>
            subst own
            rw [put_same] at here
            cases here
            exact ⟨events, [], rfl, List.forall_mem_nil _, .stay⟩
        | @goOn actor present choice there =>
            have same : client = actor :=
              own.trans (Pending.advance_client _ _ _ _ _)
            subst same
            obtain ⟨earlier, during, since⟩ := ih there
            rw [put_same] at here
            obtain ⟨operation, rest⟩ := present
            cases rest with
            | done value => cases here
            | abort => cases here
            | emit signal rest =>
                cases here
                refine ⟨earlier, _, since.step rfl id ?_⟩
                rw [ownEvents_same (Pending.advance_client _ _ _ _ _)]
                exact since.course.emit
            | call request next =>
                cases here
                refine ⟨earlier, _, since.step rfl id ?_⟩
                rw [ownEvents_same (Pending.advance_client _ _ _ _ _)]
                exact since.course.touch choice middle.store
      · rw [turn.pending_other own] at here
        obtain ⟨earlier, during, since⟩ := ih here
        have other : event.client ≠ client := fun same => own same.symm
        refine ⟨earlier, _, since.step rfl (Event.not_bounds_of_other other) ?_⟩
        rw [ownEvents_other other, List.append_nil]
        exact since.course

end System

end BoundKey
