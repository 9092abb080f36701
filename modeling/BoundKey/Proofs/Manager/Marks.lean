import BoundKey.Proofs.Manager.Turns
import Mathlib.Data.Finset.Card

set_option autoImplicit false

/-!
The marks of clients that share a manager. A generation sends its first mark
before everything else it does and its last one after it, whichever way it ends,
and no other operation sends any; so in every order of the steps the marks that
are still to be paired are those of the generations under way.
-/

namespace BoundKey

/-! ### Programs that send no marks -/

namespace Program

variable {interface : Interface} {α β : Type}

/-- A program that sends no mark, whatever its calls are answered. -/
inductive Unmarked : Program interface α → Prop where
  | done (value : α) : Unmarked (.done value)
  | abort : Unmarked .abort
  | log (event : LogEvent) {rest : Program interface α}
      (later : Unmarked rest) : Unmarked (.emit (.log event) rest)
  | call (request : interface.Call)
      {next : Option (interface.Answer request) → Program interface α}
      (later : ∀ answer, Unmarked (next answer)) : Unmarked (.call request next)

theorem Unmarked.bind {program : Program interface α}
    (unmarked : program.Unmarked) {next : α → Program interface β}
    (follows : ∀ value, (next value).Unmarked) : (program >>= next).Unmarked := by
  change (program.bind next).Unmarked
  induction unmarked with
  | done value => exact follows value
  | abort => exact .abort
  | log event _ ih => exact .log event ih
  | call request _ ih => exact .call request ih

theorem unmarked_perform (interface : Interface) (request : interface.Call) :
    (perform interface request).Unmarked := by
  refine .call request ?_
  intro answer
  cases answer with
  | none => exact .abort
  | some answer => exact .done answer

def isOver : Program interface α → Bool
  | .done _ | .abort => true
  | .emit _ _ | .call _ _ => false

end Program

namespace Operation

variable {interface : Interface} {α β : Type}

theorem unmarked_ofExcept (result : Except Failure α) :
    (ofExcept result : Operation interface α).run.Unmarked :=
  .done result

theorem unmarked_bind {operation : Operation interface α}
    (unmarked : operation.run.Unmarked)
    {next : α → Operation interface β}
    (follows : ∀ value, (next value).run.Unmarked) :
    (operation >>= next).run.Unmarked := by
  apply Program.Unmarked.bind unmarked
  intro result
  cases result with
  | ok value => exact follows value
  | error failure => exact .done _

theorem unmarked_reporting (method : Method) {operation : Operation interface α}
    (unmarked : operation.run.Unmarked) :
    (operation.reporting method).run.Unmarked := by
  apply Program.Unmarked.bind unmarked
  intro result
  cases result with
  | ok value => exact .done _
  | error failure => exact .log _ (.done _)

end Operation

namespace Manager

variable {α : Type}

theorem unmarked_ask (request : StoreCall)
    (answered : StoreCall.Answer request → Except StoreFault α) :
    (ask request answered).run.Unmarked :=
  Program.Unmarked.bind (Program.unmarked_perform StoreInterface request)
    fun _ => .done _

theorem unmarked_entry_bind (manager : Manager)
    {next : KeyEntry → StoreOperation α}
    (follows : ∀ entry, (next entry).run.Unmarked) :
    (manager.entry >>= next).run.Unmarked := by
  refine Operation.unmarked_bind
    (Program.Unmarked.bind (Program.unmarked_perform StoreInterface _) ?_) follows
  intro answer
  cases answer with
  | ok entry => exact .done _
  | error fault => exact .log _ (.done _)

theorem unmarked_entry_with (manager : Manager) {β : Type}
    (found : Except Failure β) (work : KeyEntry → β → Except Failure α) :
    (manager.entry >>= fun entry => Operation.ofExcept found >>= fun part =>
      Operation.ofExcept (work entry part)).run.Unmarked :=
  manager.unmarked_entry_bind fun _ =>
    Operation.unmarked_bind (Operation.unmarked_ofExcept found) fun _ =>
      Operation.unmarked_ofExcept _

theorem unmarked_verify (manager : Manager) (algorithm : SigningAlgorithm)
    (message signature : Bytes) :
    (manager.verify algorithm message signature).Unmarked := by
  apply Program.Unmarked.bind (manager.unmarked_entry_with
    (manager.signer algorithm) _)
  intro result
  split
  · exact .done _
  · exact .done _
  · exact .log _ (.done _)

theorem unmarked_tokenFor (manager : Manager) (tape : Tape) (request : Request) :
    (manager.tokenFor tape request).run.Unmarked := by
  refine Operation.unmarked_bind (Operation.unmarked_ofExcept _) fun target => ?_
  refine manager.unmarked_entry_bind fun entry => ?_
  exact Operation.unmarked_bind (Operation.unmarked_ofExcept _) fun thumbprint =>
    Operation.unmarked_bind (Operation.unmarked_ofExcept _) fun signer =>
      Operation.unmarked_ofExcept _

theorem generate_encloses (manager : Manager) :
    ∃ body : Program StoreInterface (Except Failure String),
    body.Unmarked ∧
      manager.generate.run = .emit (.mark .generationStart)
        (body.ensuring (.mark .generationEnd)) := by
  refine ⟨_, ?_, rfl⟩
  have asked := unmarked_ask (.generate manager.parameters) id
  refine Operation.unmarked_bind
    (Operation.unmarked_reporting _ asked) fun entry => ?_
  refine Operation.unmarked_bind (.log _ (.done _)) fun _ => ?_
  exact Operation.unmarked_reporting _ (Operation.unmarked_ofExcept _)

end Manager

theorem ManagerCall.program_unmarked (manager : Manager)
    {operation : ManagerCall} (other : operation ≠ .generate) :
    (operation.program manager).Unmarked := by
  have sign (algorithm : SigningAlgorithm) (tape : Tape) (message : Bytes) :
      (manager.sign algorithm tape message).run.Unmarked :=
    Operation.unmarked_reporting
      _ (manager.unmarked_entry_with (manager.signer algorithm) _)
  have encrypt (spec : CipherSpec) (tape : Tape) (message : Bytes) :
      (manager.encrypt spec tape message).run.Unmarked :=
    Operation.unmarked_reporting
      _ (manager.unmarked_entry_with (manager.cipher spec.algorithm) _)
  have decrypt (spec : CipherSpec) (ciphertext : Bytes) :
      (manager.decrypt spec ciphertext).run.Unmarked :=
    Operation.unmarked_reporting
      _ (manager.unmarked_entry_with (manager.cipher spec.algorithm) _)
  cases operation with
  | isPresent => exact Program.unmarked_perform StoreInterface _
  | isPresentWithThumbprint text =>
      exact Program.unmarked_perform StoreInterface _
  | generate => exact absurd rfl other
  | creationDate =>
      exact Operation.unmarked_reporting _ (Manager.unmarked_ask .creationDate id)
  | clear =>
      exact Program.Unmarked.bind (Program.unmarked_perform StoreInterface _)
        fun cleared => .log _ (.done _)
  | hardwareState =>
      exact Operation.unmarked_reporting
        _ (manager.unmarked_entry_bind fun entry => .done _)
  | thumbprint =>
      exact Operation.unmarked_reporting
        _ (manager.unmarked_entry_bind fun entry => Operation.unmarked_ofExcept _)
  | certificates =>
      exact Operation.unmarked_reporting _ (Manager.unmarked_ask .certificates id)
  | publicKey name =>
      apply Operation.unmarked_reporting
      cases PublicKeyFormat.ofName? name with
      | none => exact .done _
      | some format =>
          refine manager.unmarked_entry_bind fun entry => ?_
          cases format with
          | subjectPublicKeyInfo => exact .done _
          | jwk => exact .done _
  | sign algorithm tape message => exact sign algorithm tape message
  | signText algorithm tape text =>
      exact Operation.unmarked_bind (sign algorithm tape _) fun signature =>
        .done _
  | verify algorithm message signature =>
      exact manager.unmarked_verify algorithm message signature
  | verifyText algorithm text signature =>
      change (manager.verifyText algorithm text signature).Unmarked
      unfold Manager.verifyText
      cases Base64.decode .padded signature with
      | none => exact .log _ (.done _)
      | some bytes => exact manager.unmarked_verify algorithm _ bytes
  | encrypt spec tape message => exact encrypt spec tape message
  | encryptText spec tape text =>
      exact Operation.unmarked_bind (encrypt spec tape _) fun ciphertext =>
        .done _
  | decrypt spec ciphertext => exact decrypt spec ciphertext
  | decryptText spec text =>
      refine Operation.unmarked_bind
        (Operation.unmarked_reporting _ (Operation.unmarked_ofExcept _))
        fun bytes => ?_
      refine Operation.unmarked_bind (decrypt spec bytes) fun message => ?_
      exact Operation.unmarked_reporting _ (Operation.unmarked_ofExcept _)
  | mint tape request =>
      exact Operation.unmarked_reporting
        _ (manager.unmarked_tokenFor tape request)
  | requestConfirmation =>
      refine Operation.unmarked_reporting
        _ (manager.unmarked_entry_bind fun entry => ?_)
      exact Operation.unmarked_bind
        (Operation.unmarked_ofExcept _) fun thumbprint => .done _

/-! ### The marks among events -/

variable {Client ρ σ α : Type}

def Event.mark? : Event Client ρ σ → Option Marker
  | .emitted _ (.mark marker) => some marker
  | _ => none

def marks (events : List (Event Client ρ σ)) : List Marker :=
  events.filterMap Event.mark?

theorem marks_append (events more : List (Event Client ρ σ)) :
    marks (events ++ more) = marks events ++ marks more :=
  List.filterMap_append

theorem marks_singleton (event : Event Client ρ σ) :
    marks [event] = event.mark?.toList := by
  unfold marks
  cases sent : event.mark? with
  | none => simp [sent]
  | some marker => simp [sent]

theorem Course.unmarked {stores : ρ → Program.Handler StoreInterface σ}
    {client : Client} {program rest : Program StoreInterface α}
    {own : List (Event Client ρ σ)}
    (course : Course stores client program own rest)
    (unmarked : program.Unmarked) : rest.Unmarked := by
  induction course with
  | stay => exact unmarked
  | emit course ih =>
      cases ih with
      | log event later => exact later
  | touch choice before course ih =>
      cases ih with
      | call request later => exact later _

/-- How far a client has come with what stands between two marks. -/
inductive Bracket (client : Client) (first last : Marker)
    (body : Program StoreInterface α) :
    List (Event Client ρ σ) → Program StoreInterface α → Prop where
  | ahead (unmarked : body.Unmarked) :
      Bracket client first last body []
        (.emit (.mark first) (body.ensuring (.mark last)))
  | inside {middle : List (Event Client ρ σ)}
      {left rest : Program StoreInterface α} (silent : marks middle = [])
      (unmarked : left.Unmarked) (same : rest = left.ensuring (.mark last)) :
      Bracket client first last body
        (.emitted client (.mark first) :: middle) rest
  | past {middle : List (Event Client ρ σ)} {rest : Program StoreInterface α}
      (silent : marks middle = []) (isOver : rest.isOver = true) :
      Bracket client first last body (.emitted client (.mark first) :: middle
        ++ [.emitted client (.mark last)]) rest

namespace Bracket

variable {client : Client} {first last : Marker}
  {body rest : Program StoreInterface α} {own : List (Event Client ρ σ)}

theorem emit {signal : Signal}
    (bracket : Bracket client first last body own (.emit signal rest)) :
    Bracket client first last body (own ++ [.emitted client signal]) rest := by
  cases bracket with
  | ahead unmarked => exact .inside rfl unmarked rfl
  | @inside middle left _ silent unmarked same =>
      cases unmarked with
      | done value =>
          cases same
          exact .past silent rfl
      | abort =>
          cases same
          exact .past silent rfl
      | log event later =>
          cases same
          refine .inside ?_ later rfl
          exact (marks_append middle _).trans (congrArg (· ++ []) silent)
      | call request later => cases same
  | past silent isOver => cases isOver

theorem touch {request : StoreCall}
    {next : Option request.Answer → Program StoreInterface α}
    (bracket : Bracket client first last body own (.call request next))
    (choice : ρ) (before after : σ) (answer : Option request.Answer) :
    Bracket client first last body
      (own ++ [.touched client choice request before after]) (next answer) := by
  cases bracket with
  | @inside middle left _ silent unmarked same =>
      cases unmarked with
      | done value => cases same
      | abort => cases same
      | log event later => cases same
      | call request later =>
          cases same
          refine .inside ?_ (later answer) rfl
          exact (marks_append middle _).trans (congrArg (· ++ []) silent)
  | past silent isOver => cases isOver

theorem of_course {stores : ρ → Program.Handler StoreInterface σ}
    (unmarked : body.Unmarked)
    (course : Course stores client
      (.emit (.mark first) (body.ensuring (.mark last))) own rest) :
    Bracket client first last body own rest := by
  induction course with
  | stay => exact .ahead unmarked
  | emit course ih => exact ih.emit
  | touch choice before course ih => exact ih.touch choice before _ _

/-- Who has nothing left to do has sent both marks, the one before and the other
one after everything else. -/
theorem of_isOver (bracket : Bracket client first last body own rest)
    (isOver : rest.isOver = true) :
    ∃ middle, own = .emitted client (.mark first) :: middle
      ++ [.emitted client (.mark last)] ∧
      marks middle = [] := by
  cases bracket with
  | ahead unmarked => cases isOver
  | @inside middle left _ silent unmarked same =>
      cases unmarked with
      | done | abort | log | call =>
          cases same
          cases isOver
  | @past middle _ silent isOver => exact ⟨middle, rfl, silent⟩

theorem marks_of_isOver (bracket : Bracket client first last body own rest)
    (isOver : rest.isOver = true) : marks own = [first, last] := by
  obtain ⟨middle, whole, silent⟩ := bracket.of_isOver isOver
  rw [whole, marks_append]
  exact congrArg (fun sent => first :: sent ++ [last]) silent

theorem marks_own (bracket : Bracket client first last body own rest) :
    marks own = [] ∨ marks own = [first] ∨ marks own = [first, last] := by
  have both := bracket.marks_of_isOver
  cases bracket with
  | ahead unmarked => exact .inl rfl
  | inside silent unmarked same =>
      exact .inr (.inl (congrArg (first :: ·) silent))
  | past silent isOver => exact .inr (.inr (both isOver))

/-- Between the marks is who has taken the first step and has still one to
take. -/
theorem marks_eq_first_iff (bracket : Bracket client first last body own rest)
    (different : first ≠ last) :
    marks own = [first] ↔
      rest ≠ .emit (.mark first) (body.ensuring (.mark last)) ∧
        rest.isOver = false := by
  cases bracket with
  | ahead unmarked =>
      constructor
      · intro sent
        cases sent
      · intro underWay
        exact absurd rfl underWay.1
  | @inside middle left _ silent unmarked same =>
      have sent : marks (.emitted client (.mark first) :: middle) = [first] :=
        congrArg (first :: ·) silent
      refine ⟨fun _ => ?_, fun _ => sent⟩
      cases unmarked with
      | done value =>
          cases same
          exact ⟨fun whole => different
            (Signal.mark.inj (Program.emit.inj whole).1).symm, rfl⟩
      | abort =>
          cases same
          exact ⟨fun whole => different
            (Signal.mark.inj (Program.emit.inj whole).1).symm, rfl⟩
      | log event later =>
          cases same
          exact ⟨fun whole => absurd (Program.emit.inj whole).1 nofun, rfl⟩
      | call request later =>
          cases same
          exact ⟨nofun, rfl⟩
  | @past middle _ silent isOver =>
      constructor
      · intro sent
        rw [marks_append] at sent
        cases (List.cons.inj sent).2.symm.trans (congrArg (· ++ [last]) silent)
      · intro underWay
        exact absurd (isOver.symm.trans underWay.2) nofun

end Bracket

end BoundKey
