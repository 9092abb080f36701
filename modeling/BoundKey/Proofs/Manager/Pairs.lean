import BoundKey.Proofs.Manager.Marks

set_option autoImplicit false

/-!
The marks of a run in pairs. Where a generation has ended, its two marks enclose
whatever else it did; as long as one is under way, its first mark has no partner
yet, and that is the only way in which one can be without; and if none is
started before those before it have ended, the pairs follow one another.
-/

namespace BoundKey

variable {Client ρ σ : Type}

namespace Event

def EndsGeneration (client : Client) (event : Event Client ρ σ) : Prop :=
  event = .brokeOff client .generate ∨
    ∃ value, event = .finished client .generate value

def startsGeneration : Event Client ρ σ → Bool
  | started _ .generate => true
  | _ => false

theorem EndsGeneration.bounds {client : Client} {event : Event Client ρ σ}
    (ends : event.EndsGeneration client) : event.Bounds client := by
  rcases ends with broke | ⟨value, finished⟩
  · rw [broke]
    rfl
  · rw [finished]
    rfl

end Event

namespace System

/-- A generation of a client has taken its first step and has still one to
take. -/
def IsGenerating (manager : Manager) (system : System Client σ)
    (client : Client) : Prop :=
  ∃ rest, system.pending client = some ⟨.generate, rest⟩ ∧
    rest ≠ manager.generate.run ∧ rest.isOver = false

/-- No generation is started before those that were started earlier have
ended. -/
def OneByOne (events : List (Event Client ρ σ)) : Prop :=
  ∀ front middle back client other,
    events = front ++ .started client .generate :: middle
      ++ .started other .generate :: back →
    ∃ event ∈ middle, event.EndsGeneration client

theorem OneByOne.front {events more : List (Event Client ρ σ)}
    (oneByOne : OneByOne (events ++ more)) : OneByOne events := by
  intro front middle back client other whole
  refine oneByOne front middle (back ++ more) client other ?_
  rw [whole]
  simp

def generations (events : List (Event Client ρ σ)) : Nat :=
  events.countP Event.startsGeneration

theorem generations_append (events : List (Event Client ρ σ))
    (event : Event Client ρ σ) :
    generations (events ++ [event]) =
      generations events + if event.startsGeneration then 1 else 0 := by
  simp [generations, List.countP_append, List.countP_singleton]

def pairs (count : Nat) : List Marker :=
  (List.replicate count [.generationStart, .generationEnd]).flatten

theorem pairs_succ (count : Nat) :
    pairs (count + 1) = pairs count ++ [.generationStart, .generationEnd] := by
  simp [pairs, List.replicate_succ']

variable {stores : ρ → Program.Handler StoreInterface σ} {manager : Manager}

/-! ### Generations under way -/

theorem not_isGenerating_of_none {system : System Client σ} {client : Client}
    (idle : system.pending client = none) :
    ¬ IsGenerating manager system client := by
  intro generating
  obtain ⟨rest, here, _⟩ := generating
  cases idle.symm.trans here

theorem isGenerating_iff {system : System Client σ} {client : Client}
    {rest : Program StoreInterface (Except Failure String)}
    (here : system.pending client = some ⟨.generate, rest⟩) :
    IsGenerating manager system client ↔ rest ≠ manager.generate.run ∧
      rest.isOver = false := by
  constructor
  · intro generating
    obtain ⟨other, there, underWay⟩ := generating
    cases here.symm.trans there
    exact underWay
  · intro underWay
    exact ⟨rest, here, underWay⟩

/-- A generation is under way from its first mark to its last one. -/
theorem isGenerating_iff_marks {system : System Client σ} {client : Client}
    {own : List (Event Client ρ σ)}
    {body rest : Program StoreInterface (Except Failure String)}
    (encloses : manager.generate.run =
      .emit (.mark .generationStart) (body.ensuring (.mark .generationEnd)))
    (here : system.pending client = some ⟨.generate, rest⟩)
    (bracket : Bracket client .generationStart .generationEnd body own rest) :
    IsGenerating manager system client ↔ marks own = [.generationStart] := by
  rw [isGenerating_iff here, encloses, bracket.marks_eq_first_iff (by decide)]

theorem advance_other {store : σ} {choice : ρ} {client : Client}
    {pending : Pending} (other : pending.operation ≠ .generate)
    (unmarked : pending.rest.Unmarked) :
    (pending.advance stores choice store client).1.mark? = none ∧
      (pending.advance stores choice store client).1.startsGeneration = false ∧
      ∀ next, (pending.advance stores choice store client).2.2 = some next →
        next.operation ≠ .generate := by
  obtain ⟨operation, rest⟩ := pending
  change rest.Unmarked at unmarked
  cases unmarked with
  | done value => exact ⟨rfl, rfl, nofun⟩
  | abort => exact ⟨rfl, rfl, nofun⟩
  | log event later =>
      refine ⟨rfl, rfl, ?_⟩
      intro next same
      cases same
      exact other
  | call request later =>
      refine ⟨rfl, rfl, ?_⟩
      intro next same
      cases same
      exact other

def Alone (system : System Client σ) (client : Client) : Prop :=
  ∀ other rest, other ≠ client → system.pending other ≠ some ⟨.generate, rest⟩

/-- Rounds of two marks, and those of the one generation on its way. -/
inductive Rounds (events : List (Event Client ρ σ)) (last : System Client σ) :
    Prop where
  | idle (none : ∀ client rest, last.pending client ≠ some ⟨.generate, rest⟩)
      (sent : marks events = pairs (generations events))
  | busy {client : Client} {own : List (Event Client ρ σ)}
      {body rest : Program StoreInterface (Except Failure String)}
      (ended : Nat) (here : last.pending client = some ⟨.generate, rest⟩)
      (alone : Alone last client)
      (bracket : Bracket client .generationStart .generationEnd body own rest)
      (counted : generations events = ended + 1)
      (sent : marks events = pairs ended ++ marks own)

theorem Rounds.of_pending {events : List (Event Client ρ σ)}
    {system : System Client σ} {client : Client}
    {rest : Program StoreInterface (Except Failure String)}
    (rounds : Rounds events system)
    (here : system.pending client = some ⟨.generate, rest⟩) :
    ∃ (own : List (Event Client ρ σ))
      (body : Program StoreInterface (Except Failure String)) (ended : Nat),
      Alone system client ∧ Bracket client .generationStart
        .generationEnd body own rest ∧
      generations events = ended + 1 ∧
      marks events = pairs ended ++ marks own := by
  cases rounds with
  | idle none => exact absurd here (none _ _)
  | @busy other own body rest ended present alone bracket counted sent =>
      have same : client = other := of_not_not fun away => alone _ _ away here
      subst same
      cases present.symm.trans here
      exact ⟨own, body, ended, alone, bracket, counted, sent⟩

variable [DecidableEq Client] {start before after last : System Client σ}
  {events : List (Event Client ρ σ)} {event : Event Client ρ σ}

/-! ### One generation -/

theorem bracket_of_pending (trace : Trace (Turn stores manager) start events last)
    (idle : ∀ client, start.pending client = none) {client : Client}
    {rest : Program StoreInterface (Except Failure String)}
    (here : last.pending client = some ⟨.generate, rest⟩) :
    ∃ earlier during body,
      events = earlier ++ .started client .generate :: during ∧
      (∀ event ∈ during, ¬ event.Bounds client) ∧
      manager.generate.run = .emit (.mark .generationStart)
        (body.ensuring (.mark .generationEnd)) ∧
      Bracket client .generationStart .generationEnd body
        (ownEvents client during) rest := by
  obtain ⟨earlier, during, since⟩ := since_start trace idle here
  obtain ⟨body, unmarked, encloses⟩ := manager.generate_encloses
  have course := since.course
  change Course stores client manager.generate.run (ownEvents client during)
    rest at course
  rw [encloses] at course
  exact ⟨earlier, during, body, since.whole, since.unbound, encloses,
    .of_course unmarked course⟩

theorem unmarked_of_pending
    (trace : Trace (Turn stores manager) start events last)
    (idle : ∀ client, start.pending client = none) {client : Client}
    {pending : Pending} (here : last.pending client = some pending)
    (other : pending.operation ≠ .generate) : pending.rest.Unmarked := by
  obtain ⟨earlier, during, since⟩ := since_start trace idle here
  exact since.course.unmarked (ManagerCall.program_unmarked manager other)

theorem ended_generation (trace : Trace (Turn stores manager) start events last)
    (idle : ∀ client, start.pending client = none) {client : Client}
    {front back : List (Event Client ρ σ)}
    (ends : event.EndsGeneration client)
    (whole : events = front ++ event :: back) :
    ∃ earlier during middle,
      front = earlier ++ .started client .generate :: during ∧
      (∀ event ∈ during, ¬ event.Bounds client) ∧
      ownEvents client during =
        .emitted client (.mark .generationStart) :: middle ++
        [.emitted client (.mark .generationEnd)] ∧
      marks middle = [] := by
  subst whole
  obtain ⟨before, after, upTo, turn, _⟩ := trace.split
  obtain ⟨rest, here, isOver⟩ : ∃ rest,
      before.pending client = some ⟨.generate, rest⟩ ∧ rest.isOver = true := by
    rcases ends with broke | ⟨value, finished⟩
    · subst broke
      exact ⟨_, turn.brokeOff, rfl⟩
    · subst finished
      exact ⟨_, turn.finished, rfl⟩
  obtain ⟨earlier, during, body, whole, unbound, _, bracket⟩ :=
    bracket_of_pending upTo idle here
  obtain ⟨middle, own, silent⟩ := bracket.of_isOver isOver
  exact ⟨earlier, during, middle, whole, unbound, own, silent⟩

theorem marked_by_generation
    (trace : Trace (Turn stores manager) start events last)
    (idle : ∀ client, start.pending client = none) {client : Client}
    {marker : Marker} {front back : List (Event Client ρ σ)}
    (whole : events = front ++ .emitted client (.mark marker) :: back) :
    ∃ earlier during, front = earlier ++ .started client .generate :: during ∧
      ∀ event ∈ during, ¬ event.Bounds client := by
  subst whole
  obtain ⟨before, after, upTo, turn, _⟩ := trace.split
  obtain ⟨operation, rest, here⟩ := turn.emitted
  by_cases generates : operation = .generate
  · subst generates
    obtain ⟨earlier, during, body, whole, unbound, _⟩ :=
      bracket_of_pending upTo idle here
    exact ⟨earlier, during, whole, unbound⟩
  · cases unmarked_of_pending upTo idle here generates

/-! ### One turn -/

inductive Generates (manager : Manager) (before : System Client σ)
    (event : Event Client ρ σ) (after : System Client σ) : Prop where
  | other (sent : event.mark? = none) (starts : event.startsGeneration = false)
      (none : ∀ rest, before.pending event.client ≠ some ⟨.generate, rest⟩)
      (noneAfter : ∀ rest, after.pending event.client ≠ some ⟨.generate, rest⟩)
  | begins {client : Client} (same : event = .started client .generate)
      (idle : before.pending client = none)
      (there : after.pending client = some ⟨.generate, manager.generate.run⟩)
  | goesOn {rest next : Program StoreInterface (Except Failure String)}
      (starts : event.startsGeneration = false)
      (here : before.pending event.client = some ⟨.generate, rest⟩)
      (there : after.pending event.client = some ⟨.generate, next⟩)
      (keeps : ∀ own body, Bracket event.client .generationStart
        .generationEnd body own rest →
        Bracket event.client .generationStart .generationEnd body
          (own ++ [event]) next)
  | ends {rest : Program StoreInterface (Except Failure String)}
      (sent : event.mark? = none) (starts : event.startsGeneration = false)
      (here : before.pending event.client = some ⟨.generate, rest⟩)
      (there : after.pending event.client = none)
      (both : ∀ (own : List (Event Client ρ σ)) body,
        Bracket event.client .generationStart .generationEnd body own rest →
        marks own = [.generationStart, .generationEnd])

theorem Turn.generates (turn : Turn stores manager before event after)
    (trace : Trace (Turn stores manager) start events before)
    (idle : ∀ client, start.pending client = none) :
    Generates manager before event after := by
  cases turn with
  | @start client operation unoccupied =>
      by_cases generates : operation = .generate
      · subst generates
        exact .begins rfl unoccupied (put_same _ _ _)
      · refine .other rfl ?_ ?_ ?_
        · cases operation with
          | generate => exact absurd rfl generates
          | _ => rfl
        · intro rest here
          cases unoccupied.symm.trans here
        · intro rest there
          cases (put_same before client _).symm.trans there
          exact generates rfl
  | @goOn client pending choice here =>
      by_cases generates : pending.operation = .generate
      · obtain ⟨operation, rest⟩ := pending
        change operation = .generate at generates
        subst generates
        cases rest with
        | done value =>
            exact .ends rfl rfl here (put_same _ _ _) fun own body bracket =>
              bracket.marks_of_isOver rfl
        | abort =>
            exact .ends rfl rfl here (put_same _ _ _) fun own body bracket =>
              bracket.marks_of_isOver rfl
        | emit signal rest =>
            exact .goesOn rfl here (put_same _ _ _) fun own body bracket =>
              bracket.emit
        | call request next =>
            exact .goesOn rfl here (put_same _ _ _) fun own body bracket =>
              bracket.touch choice before.store _ _
      · obtain ⟨sent, starts, different⟩ :=
          advance_other generates (unmarked_of_pending trace idle here generates)
        refine .other sent starts ?_ ?_
        · intro rest there
          rw [Pending.advance_client] at there
          cases here.symm.trans there
          exact generates rfl
        · intro rest there
          rw [Pending.advance_client, put_same] at there
          exact different _ there rfl

theorem Turn.isGenerating (turn : Turn stores manager before event after)
    (trace : Trace (Turn stores manager) start events before)
    (idle : ∀ client, start.pending client = none) :
    (event.mark? = none ∧
        (IsGenerating manager before event.client ↔
          IsGenerating manager after event.client)) ∨
      (event.mark? = some .generationStart ∧
        ¬ IsGenerating manager before event.client ∧
        IsGenerating manager after event.client) ∨
      (event.mark? = some .generationEnd ∧
        IsGenerating manager before event.client ∧
        ¬ IsGenerating manager after event.client) := by
  cases turn.generates trace idle with
  | other sent starts none noneAfter =>
      have neither {system : System Client σ}
          (none : ∀ rest, system.pending event.client ≠ some ⟨.generate, rest⟩) :
          ¬ IsGenerating manager system event.client :=
        fun generating => none _ generating.choose_spec.1
      exact .inl ⟨sent, iff_of_false (neither none) (neither noneAfter)⟩
  | @begins client same unoccupied there =>
      subst same
      have whole : ¬ IsGenerating manager after client := by
        rw [isGenerating_iff there]
        exact fun underWay => underWay.1 rfl
      exact .inl ⟨rfl, iff_of_false (not_isGenerating_of_none unoccupied) whole⟩
  | ends sent starts here there both =>
      obtain ⟨_, _, body, _, _, encloses, bracket⟩ :=
        bracket_of_pending trace idle here
      refine .inl ⟨sent, iff_of_false ?_ (not_isGenerating_of_none there)⟩
      rw [isGenerating_iff_marks encloses here bracket, both _ _ bracket]
      decide
  | goesOn starts here there keeps =>
      obtain ⟨_, during, body, _, _, encloses, bracket⟩ :=
        bracket_of_pending trace idle here
      have later := keeps _ _ bracket
      rw [isGenerating_iff_marks encloses here bracket,
        isGenerating_iff_marks encloses there later]
      have kept := later.marks_own
      rw [marks_append, marks_singleton] at kept ⊢
      generalize marks (ownEvents event.client during) = sent at kept ⊢
      generalize event.mark? = mark at kept ⊢
      cases mark with
      | none => simp
      | some marker =>
          rcases kept with none | one | two
          · exact absurd none (by simp)
          · have parts : sent ++ [marker] = [] ++ [.generationStart] := one
            obtain ⟨rfl, rfl⟩ := List.append_singleton_inj.1 parts
            exact .inr (.inl (by simp))
          · have parts : sent ++ [marker] =
                [.generationStart] ++ [.generationEnd] := two
            obtain ⟨rfl, rfl⟩ := List.append_singleton_inj.1 parts
            exact .inr (.inr (by simp))

theorem marks_balance (trace : Trace (Turn stores manager) start events last)
    (idle : ∀ client, start.pending client = none) :
    ∃ generating : Finset Client,
      (∀ client, client ∈ generating ↔ IsGenerating manager last client) ∧
      (marks events).count .generationStart =
        (marks events).count .generationEnd + generating.card := by
  induction trace with
  | stay =>
      exact ⟨∅, fun client => by simp [not_isGenerating_of_none (idle client)],
        rfl⟩
  | @step events middle last event trace turn ih =>
      obtain ⟨generating, members, balance⟩ := ih
      have others {client : Client} (other : client ≠ event.client) :
          IsGenerating manager last client ↔
            IsGenerating manager middle client := by
        unfold IsGenerating
        rw [turn.pending_other other]
      rw [marks_append, marks_singleton, List.count_append, List.count_append]
      rcases turn.isGenerating trace idle with ⟨sent, same⟩ | ⟨sent, not,
        now⟩ | ⟨sent, was, no⟩
      · refine ⟨generating, ?_, ?_⟩
        · intro client
          by_cases own : client = event.client
          · rw [members, own, same]
          · rw [members, others own]
        · rw [sent]
          exact balance
      · refine ⟨insert event.client generating, ?_, ?_⟩
        · intro client
          by_cases own : client = event.client
          · simp [own, now]
          · simp [own, members, others own]
        · rw [sent, Finset.card_insert_of_notMem (mt (members _).1 not)]
          simp
          omega
      · refine ⟨generating.erase event.client, ?_, ?_⟩
        · intro client
          by_cases own : client = event.client
          · simp [own, no]
          · simp [own, members, others own]
        · have some := Finset.card_erase_add_one ((members _).2 was)
          rw [sent]
          simp
          omega

/-! ### One generation at a time -/

/-- Where one generation is started after the other has ended, none is on its
way when one is started. -/
theorem OneByOne.none_pending {client : Client}
    (oneByOne : OneByOne (events ++ [.started client .generate]))
    (trace : Trace (Turn stores manager) start events last)
    (idle : ∀ client, start.pending client = none)
    (other : Client) (rest : Program StoreInterface (Except Failure String)) :
    last.pending other ≠ some ⟨.generate, rest⟩ := by
  intro here
  obtain ⟨earlier, during, since⟩ := since_start trace idle here
  obtain ⟨event, member, ends⟩ :=
    oneByOne earlier during [] other client (by rw [since.whole])
  exact since.unbound event member ends.bounds

theorem Alone.turn (alone : Alone before event.client)
    (turn : Turn stores manager before event after) :
    Alone after event.client := by
  intro other rest different
  rw [turn.pending_other different]
  exact alone other rest different

theorem Rounds.pass (rounds : Rounds events before)
    (turn : Turn stores manager before event after)
    (sent : event.mark? = none) (starts : event.startsGeneration = false)
    (none : ∀ rest, before.pending event.client ≠ some ⟨.generate, rest⟩)
    (noneAfter : ∀ rest, after.pending event.client ≠ some ⟨.generate, rest⟩) :
    Rounds (events ++ [event]) after := by
  have sameMarks : marks (events ++ [event]) = marks events := by
    rw [marks_append, marks_singleton, sent, Option.toList_none, List.append_nil]
  have sameCount : generations (events ++ [event]) = generations events := by
    simp [generations_append, starts]
  have others (client : Client)
      (rest : Program StoreInterface (Except Failure String))
      (not : before.pending client ≠ some ⟨.generate, rest⟩) :
        after.pending client ≠ some ⟨.generate, rest⟩ := by
    by_cases own : client = event.client
    · rw [own]
      exact noneAfter rest
    · rw [turn.pending_other own]
      exact not
  cases rounds with
  | idle noneBefore paired =>
      refine .idle ?_ (by rw [sameMarks, sameCount, paired])
      exact fun client rest => others client rest (noneBefore client rest)
  | @busy client _ _ rest ended here alone bracket counted paired =>
      have different : client ≠ event.client := by
        intro own
        exact none rest (own ▸ here)
      refine .busy ended ((turn.pending_other different).trans here) ?_ bracket
        (sameCount.trans counted) (sameMarks.trans paired)
      exact fun other rest away => others other rest (alone other rest away)

theorem Rounds.step (rounds : Rounds events before)
    (turn : Turn stores manager before event after)
    (trace : Trace (Turn stores manager) start events before)
    (idle : ∀ client, start.pending client = none)
    (oneByOne : OneByOne (events ++ [event])) :
    Rounds (events ++ [event]) after := by
  cases turn.generates trace idle with
  | other sent starts none noneAfter =>
      exact rounds.pass turn sent starts none noneAfter
  | @begins client same unoccupied there =>
      subst same
      have none := oneByOne.none_pending trace idle
      cases rounds with
      | busy _ here => exact absurd here (none _ _)
      | idle _ paired =>
          obtain ⟨body, unmarked, encloses⟩ := manager.generate_encloses
          have alone : Alone before client := fun other rest _ => none other rest
          rw [encloses] at there
          refine .busy _ there (alone.turn turn) (.ahead unmarked)
            (generations_append _ _) ?_
          rw [marks_append, paired]
          rfl
  | goesOn starts here there keeps =>
      obtain ⟨own, body, ended, alone, bracket, counted, paired⟩ :=
        rounds.of_pending here
      refine .busy ended there (alone.turn turn) (keeps _ _ bracket) ?_ ?_
      · simp [generations_append, starts, counted]
      · rw [marks_append, marks_append, paired, List.append_assoc]
  | ends sent starts here there both =>
      obtain ⟨own, body, ended, alone, bracket, counted, paired⟩ :=
        rounds.of_pending here
      refine .idle ?_ ?_
      · intro client rest present
        by_cases own : client = event.client
        · rw [own, there] at present
          cases present
        · exact alone.turn turn client rest own present
      · rw [marks_append, marks_singleton, sent, paired, both _ _ bracket,
          ← pairs_succ, generations_append, starts, counted]
        simp

theorem rounds_of_oneByOne (trace : Trace (Turn stores manager) start events last)
    (idle : ∀ client, start.pending client = none)
    (oneByOne : OneByOne events) : Rounds events last := by
  induction trace with
  | stay =>
      refine .idle ?_ rfl
      intro client rest here
      cases (idle client).symm.trans here
  | step trace turn ih => exact (ih oneByOne.front).step turn trace idle oneByOne

/-- Among the steps of any number of clients in any order, over any store: a
generation that has ended, with a value or by breaking off, sent one first mark
before and one last mark after all else that it did; the first marks are as many
as the last ones and the generations under way; no other operation sends a mark;
and if no generation is started before those before it have ended, the marks are
pairs, one for each generation, the last one not complete as long as it is under
way. -/
theorem marks_in_pairs (trace : Trace (Turn stores manager) start events last)
    (idle : ∀ client, start.pending client = none) :
    (∀ client event front back, event.EndsGeneration client →
      events = front ++ event :: back →
      ∃ earlier during middle,
        front = earlier ++ .started client .generate :: during ∧
        (∀ event ∈ during, ¬ event.Bounds client) ∧
        ownEvents client during =
          .emitted client (.mark .generationStart) :: middle ++
          [.emitted client (.mark .generationEnd)] ∧
        marks middle = []) ∧
    (∃ generating : Finset Client,
      (∀ client, client ∈ generating ↔ IsGenerating manager last client) ∧
      (marks events).count .generationStart =
        (marks events).count .generationEnd + generating.card) ∧
    (∀ client marker front back,
      events = front ++ .emitted client (.mark marker) :: back →
      ∃ earlier during, front = earlier ++ .started client .generate :: during ∧
        ∀ event ∈ during, ¬ event.Bounds client) ∧
    (OneByOne events → marks events <+: pairs (generations events) ∧
      ((∀ client rest, last.pending client ≠ some ⟨.generate, rest⟩) →
        marks events = pairs (generations events))) := by
  refine ⟨fun client event front back => ended_generation trace idle,
    marks_balance trace idle, fun client marker front back =>
      marked_by_generation trace idle, ?_⟩
  intro oneByOne
  cases rounds_of_oneByOne trace idle oneByOne with
  | idle none paired => exact ⟨paired ▸ List.prefix_rfl, fun _ => paired⟩
  | busy _ here alone bracket counted paired =>
      refine ⟨?_, fun none => absurd here (none _ _)⟩
      rw [paired, counted, pairs_succ, List.prefix_append_right_inj]
      rcases bracket.marks_own with none | one | two
      · rw [none]
        exact List.nil_prefix
      · rw [one]
        exact List.prefix_append _ _
      · rw [two]

def brokenStores : Unit → Program.Handler StoreInterface Unit :=
  fun _ _ _ => (none, (), [])

/-- While one client generates a key, the other one asks whether there is one,
and generates one later. -/
def brokenEvents : List (Event Bool Unit Unit) :=
  [.started false .generate, .emitted false (.mark .generationStart),
    .started true .isPresent, .touched false ()
      (.generate Manager.standardManager.parameters) () (),
      .touched true () .isPresent () (),
    .brokeOff true .isPresent, .emitted false (.mark .generationEnd),
    .brokeOff false .generate, .started true .generate,
    .emitted true (.mark .generationStart)]

private theorem brokenEvents_trace : ∃ last : System Bool Unit,
    Trace (Turn brokenStores Manager.standardManager)
    ⟨(), fun _ => none⟩ brokenEvents last :=
  ⟨_, Trace.of_play? turn_of_turn? (rfl :
    Trace.play? (turn? brokenStores Manager.standardManager) ⟨(), fun _ => none⟩
    [.start false .generate, .goOn false (), .start true .isPresent,
      .goOn false (), .goOn true (), .goOn true (),
      .goOn false (), .goOn false (), .start true .generate, .goOn true ()] =
      some (brokenEvents, _))⟩

/-- The first generation sent both marks although the store broke off, and the
second one is still under way. -/
theorem marks_in_pairs_broken : ∃ last : System Bool Unit,
    Trace (Turn brokenStores Manager.standardManager) ⟨(), fun _ => none⟩
      brokenEvents last ∧
    marks brokenEvents = [.generationStart, .generationEnd, .generationStart] ∧
    (∃ earlier during middle, brokenEvents.take 7 =
      earlier ++ .started false .generate :: during ∧
      (∀ event ∈ during, ¬ event.Bounds false) ∧
      ownEvents false during =
        .emitted false (.mark .generationStart) :: middle ++
        [.emitted false (.mark .generationEnd)] ∧ marks middle = []) ∧
    ∃ generating : Finset Bool,
      (∀ client, client ∈ generating ↔
        IsGenerating Manager.standardManager last client) ∧
      generating.card = 1 := by
  obtain ⟨last, trace⟩ := brokenEvents_trace
  obtain ⟨ended, ⟨generating, members, balance⟩, _, _⟩ :=
    marks_in_pairs trace fun _ => rfl
  refine ⟨last, trace, rfl, ?_, generating, members, ?_⟩
  · exact ended false (.brokeOff false .generate) (brokenEvents.take 7)
      (brokenEvents.drop 8) (.inl rfl) rfl
  · change 2 = 1 + generating.card at balance
    omega

end System

end BoundKey
