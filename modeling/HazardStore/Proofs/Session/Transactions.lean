import HazardStore.Proofs.Session.Runs
/-!
The control of transactions on every run. A connection is outside or inside a transaction; an
orderly session begins one only outside, ends one only inside and leaves the connection outside. A
dialogue in a transaction of its own runs one of few courses, and it tells by its result which one
it was.
-/

namespace HazardStore

namespace Event

def isSaid : Event → Bool
  | .noted _ => false
  | _ => true

/-- Where a connection is after an event: inside a transaction or not. An event that cannot happen
where the connection is leads nowhere. -/
def next? (inside : Bool) : Event → Option Bool
  | .sent _ => some inside
  | .noted _ => some inside
  | .began opened => if inside then none else some opened
  | .committed accepted => if inside then some (!accepted) else none
  | .rolledBack => if inside then some false else none

end Event

def said (trace : List Event) : List Event :=
  trace.filter Event.isSaid

def after? (inside : Bool) (trace : List Event) : Option Bool :=
  trace.foldlM Event.next? inside

theorem after?_append (inside : Bool) (first second : List Event) :
    after? inside (first ++ second) = (after? inside first).bind (fun now => after? now second) :=
  List.foldlM_append

/-- Whatever it is answered, the session controls transactions as the place of its connection admits
and leaves the connection outside. -/
def Session.Orderly {ε α : Type} : Session ε α → Bool → Prop
  | .done _, inside => inside = false
  | .fail _, inside => inside = false
  | .ask _ next, inside => ∀ reply, (next reply).Orderly inside
  | .note _ next, inside => next.Orderly inside
  | .begin next, inside => inside = false ∧ (next (.ok ())).Orderly true ∧
      ∀ error, (next (.error error)).Orderly false
  | .commit next, inside => inside = true ∧ (next (.ok ())).Orderly false ∧
      ∀ error, (next (.error error)).Orderly true
  | .rollback next, inside => inside = true ∧ next.Orderly false

namespace Session.Orderly

variable {σ ε δ α β : Type} {inside : Bool}

theorem ofDialogue (dialogue : Dialogue ε α) : (Session.ofDialogue dialogue).Orderly false := by
  induction dialogue with
  | done value => rfl
  | fail error => rfl
  | ask statement next ih => exact ih
  | note entry next ih => exact ih

theorem bind {session : Session ε α} {continuation : α → Session ε β}
    (first : session.Orderly inside) (rest : ∀ value, (continuation value).Orderly false) :
    (session >>= continuation).Orderly inside := by
  change (session.bind continuation).Orderly inside
  induction session generalizing inside with
  | done value =>
      have outside : inside = false := first
      rw [outside]
      exact rest value
  | fail error => exact first
  | ask statement next ih => exact fun reply => ih reply (first reply)
  | note entry next ih => exact ih first
  | begin next ih =>
      obtain ⟨outside, opened, refused⟩ := first
      exact ⟨outside, ih _ opened, fun error => ih _ (refused error)⟩
  | commit next ih =>
      obtain ⟨within, accepted, refused⟩ := first
      exact ⟨within, ih _ accepted, fun error => ih _ (refused error)⟩
  | rollback next ih => exact ⟨first.1, ih first.2⟩

theorem mapError {session : Session ε α} (wrap : ε → δ) (orderly : session.Orderly inside) :
    (Session.mapError wrap session).Orderly inside := by
  induction session generalizing inside with
  | done value => exact orderly
  | fail error => exact orderly
  | ask statement next ih => exact fun reply => ih reply (orderly reply)
  | note entry next ih => exact ih orderly
  | begin next ih =>
      obtain ⟨outside, opened, refused⟩ := orderly
      exact ⟨outside, ih _ opened, fun error => ih _ (refused error)⟩
  | commit next ih =>
      obtain ⟨within, accepted, refused⟩ := orderly
      exact ⟨within, ih _ accepted, fun error => ih _ (refused error)⟩
  | rollback next ih => exact ⟨orderly.1, ih orderly.2⟩

section Transactions

variable [OfFault ε]

theorem conclude (work : Dialogue ε (Ending α)) : (Session.conclude work).Orderly true := by
  induction work with
  | done ending =>
      cases ending with
      | keep value => exact ⟨rfl, rfl, fun _ => ⟨rfl, rfl⟩⟩
      | discard value => exact ⟨rfl, rfl⟩
  | fail error => exact ⟨rfl, rfl⟩
  | ask statement next ih => exact ih
  | note entry next ih => exact ih

theorem bracket (work : Dialogue ε (Ending α)) : (Session.bracket work).Orderly false :=
  ⟨rfl, conclude work, fun _ => rfl⟩

end Transactions

theorem after?_trace {session : Session ε α} (orderly : session.Orderly inside) (server : Server σ)
    (state : σ) : after? inside (session.run server state).trace = some false := by
  induction session generalizing inside state with
  | done value =>
      have outside : inside = false := orderly
      rw [outside]
      rfl
  | fail error =>
      have outside : inside = false := orderly
      rw [outside]
      rfl
  | ask statement next ih => exact ih _ (orderly _) _
  | note entry next ih => exact ih orderly _
  | begin next ih =>
      obtain ⟨outside, opened, refused⟩ := orderly
      subst outside
      rw [run_begin]
      cases (server.begin state).1 with
      | ok => exact ih _ opened _
      | error error => exact ih _ (refused error) _
  | commit next ih =>
      obtain ⟨within, accepted, refused⟩ := orderly
      subst within
      rw [run_commit]
      cases (server.commit state).1 with
      | ok => exact ih _ accepted _
      | error error => exact ih _ (refused error) _
  | rollback next ih =>
      obtain ⟨within, later⟩ := orderly
      subst within
      exact ih later _

end Session.Orderly

def Dialogue.Returns {ε α : Type} (kind : α → Prop) : Dialogue ε α → Prop
  | .done value => kind value
  | .fail _ => True
  | .ask _ next => ∀ reply, (next reply).Returns kind
  | .note _ next => next.Returns kind

namespace Dialogue.Returns

variable {σ ε α β : Type}

theorem bind {kind : β → Prop} {dialogue : Dialogue ε α} {continuation : α → Dialogue ε β}
    (rest : ∀ value, (continuation value).Returns kind) :
    (dialogue >>= continuation).Returns kind := by
  change (dialogue.bind continuation).Returns kind
  induction dialogue with
  | done value => exact rest value
  | fail error => trivial
  | ask statement next ih => exact ih
  | note entry next ih => exact ih

theorem of_run {kind : α → Prop} {dialogue : Dialogue ε α} (returns : dialogue.Returns kind)
    (server : Server σ) (state : σ) (value : α)
    (succeeded : ((Session.ofDialogue dialogue).run server state).result = .ok value) :
    kind value := by
  induction dialogue generalizing state with
  | done other =>
      cases succeeded
      exact returns
  | fail error => cases succeeded
  | ask statement next ih => exact ih _ (returns _) _ succeeded
  | note entry next ih => exact ih returns _ succeeded

end Dialogue.Returns

/-! ### Courses -/

/-- How a call with a transaction of its own may go. -/
inductive Course where
  | silent
  | unopened
  | kept (statements : List Statement)
  | undone (statements : List Statement)
  | refused (statements : List Statement)

namespace Course

def events : Course → List Event
  | .silent => []
  | .unopened => [.began false]
  | .kept statements => .began true :: (statements.map .sent ++ [.committed true])
  | .undone statements => .began true :: (statements.map .sent ++ [.rolledBack])
  | .refused statements =>
      .began true :: (statements.map .sent ++ [.committed false, .rolledBack])

/-- What a result says about the course that led to it, when `lasting` are the values that stand for
work that was kept. -/
def Tells {ε α : Type} (lasting : α → Prop) (result : Except ε α) : Course → Prop
  | .kept _ => ∃ value, result = .ok value ∧ lasting value
  | .undone _ => (∃ error, result = .error error) ∨ ∃ value, result = .ok value ∧ ¬lasting value
  | _ => ∃ error, result = .error error

namespace Tells

variable {ε α : Type} {lasting : α → Prop} {result : Except ε α} {course : Course}

theorem kept_iff (tells : course.Tells lasting result) :
    (∃ statements, course = .kept statements) ↔ ∃ value, result = .ok value ∧ lasting value := by
  cases course with
  | kept statements => exact ⟨fun _ => tells, fun _ => ⟨statements, rfl⟩⟩
  | undone statements =>
      rcases tells with ⟨error, failed⟩ | ⟨value, succeeded, fleeting⟩
      · simp [failed]
      · simp [succeeded, fleeting]
  | silent =>
      obtain ⟨error, failed⟩ := tells
      simp [failed]
  | unopened =>
      obtain ⟨error, failed⟩ := tells
      simp [failed]
  | refused statements =>
      obtain ⟨error, failed⟩ := tells
      simp [failed]

theorem of_error (tells : course.Tells lasting result) (error : ε)
    (failed : result = .error error) : course = .silent ∨ course = .unopened ∨
      ∃ statements, course = .undone statements ∨ course = .refused statements := by
  cases course with
  | silent => exact Or.inl rfl
  | unopened => exact Or.inr (Or.inl rfl)
  | undone statements => exact Or.inr (Or.inr ⟨statements, Or.inl rfl⟩)
  | refused statements => exact Or.inr (Or.inr ⟨statements, Or.inr rfl⟩)
  | kept statements =>
      obtain ⟨value, succeeded, _⟩ := tells
      rw [failed] at succeeded
      cases succeeded

theorem undone_of_fleeting (tells : course.Tells lasting result) (value : α)
    (succeeded : result = .ok value) (fleeting : ¬lasting value) :
    ∃ statements, course = .undone statements := by
  subst succeeded
  cases course with
  | undone statements => exact ⟨statements, rfl⟩
  | kept statements =>
      obtain ⟨other, same, lasts⟩ := tells
      cases same
      exact absurd lasts fleeting
  | silent =>
      obtain ⟨error, impossible⟩ := tells
      cases impossible
  | unopened =>
      obtain ⟨error, impossible⟩ := tells
      cases impossible
  | refused statements =>
      obtain ⟨error, impossible⟩ := tells
      cases impossible

end Tells

end Course

def Session.Transacts {ε α : Type} (lasting : α → Prop) (session : Session ε α) : Prop :=
  ∀ {σ : Type} (server : Server σ) (state : σ), ∃ course : Course,
    said (session.run server state).trace = course.events ∧
      course.Tells lasting (session.run server state).result

theorem said_append (first second : List Event) :
    said (first ++ second) = said first ++ said second :=
  List.filter_append ..

theorem Session.said_ofDialogue {σ ε α : Type} (dialogue : Dialogue ε α) (server : Server σ)
    (state : σ) : ∃ statements : List Statement,
      said ((ofDialogue dialogue).run server state).trace = statements.map .sent := by
  induction dialogue generalizing state with
  | done value => exact ⟨[], rfl⟩
  | fail error => exact ⟨[], rfl⟩
  | ask statement next ih =>
      obtain ⟨statements, same⟩ := ih _ (server.answer statement state).2
      exact ⟨statement :: statements, congrArg (Event.sent statement :: ·) same⟩
  | note entry next ih => exact ih state

namespace Session.Transacts

variable {ε α : Type} {lasting : α → Prop}

theorem fail (error : ε) : (Session.fail error : Session ε α).Transacts lasting :=
  fun _ _ => ⟨.silent, rfl, error, rfl⟩

/-- The work of a transaction tells its course when it keeps the values that last and discards the
others. -/
theorem bracket [OfFault ε] (work : Dialogue ε (Ending α))
    (returns : work.Returns (fun
      | .keep value => lasting value
      | .discard value => ¬lasting value)) : (Session.bracket work).Transacts lasting := by
  intro σ server state
  cases begun : (server.begin state).1 with
  | error error =>
      rw [run_bracket_of_refused begun]
      exact ⟨.unopened, rfl, _, rfl⟩
  | ok =>
      obtain ⟨statements, sent⟩ := said_ofDialogue work server (server.begin state).2
      have kind := returns.of_run server (server.begin state).2
      rw [run_bracket_of_opened begun]
      simp only [said, List.filter_cons, Event.isSaid, if_true, List.filter_append]
      change List.filter _ _ = _ at sent
      rw [sent]
      cases worked : ((ofDialogue work).run server (server.begin state).2).result with
      | error error => exact ⟨.undone statements, rfl, Or.inl ⟨error, rfl⟩⟩
      | ok ending =>
          have lasts := kind ending worked
          cases ending with
          | discard value => exact ⟨.undone statements, rfl, Or.inr ⟨value, rfl, lasts⟩⟩
          | keep value =>
              simp only [Session.ending, Session.conclude, run_commit]
              cases (server.commit
                ((ofDialogue work).run server (server.begin state).2).state).1 with
              | ok => exact ⟨.kept statements, rfl, value, rfl, lasts⟩
              | error error => exact ⟨.refused statements, rfl, _, rfl⟩

theorem noted {session : Session ε α} (transacts : session.Transacts lasting)
    (entry : α → JournalEntry) :
    (session >>= fun value => Session.note (entry value) (.done value)).Transacts lasting := by
  intro σ server state
  obtain ⟨course, events, tells⟩ := transacts server state
  refine ⟨course, ?_, ?_⟩
  · rw [run_bind, ← events]
    generalize session.run server state = run
    obtain ⟨result, after, trace⟩ := run
    cases result with
    | error error => rfl
    | ok value =>
        change said (trace ++ [.noted (entry value)]) = said trace
        rw [said_append]
        exact List.append_nil _
  · rw [run_bind]
    generalize session.run server state = run at tells ⊢
    obtain ⟨result, after, trace⟩ := run
    cases result with
    | error error => exact tells
    | ok value => exact tells

end Session.Transacts

/-- The work of a transaction on answers that are given: what it sends and what it comes to. -/
structure Work (ε α : Type) where
  statements : List Statement
  outcome : Except ε (Ending α)

namespace Work

variable {σ ε α β : Type}

def ends (outcome : Except ε (Ending α)) : Work ε α :=
  ⟨[], outcome⟩

def reading [OfFault ε] (statement : Statement) (read : Except Fault β) (next : β → Work ε α) :
    Work ε α :=
  match read with
  | .error fault => ⟨[statement], .error (OfFault.ofFault fault)⟩
  | .ok value => ⟨statement :: (next value).statements, (next value).outcome⟩

/-- The course of a transaction with this work, and its result. What the commit is answered counts
only for work that is kept. -/
def verdict [OfFault ε] (work : Work ε α) (begun committed : Except ServerError Unit) :
    Course × Except ε α :=
  match begun with
  | .error error => (.unopened, .error (OfFault.ofFault (.server error)))
  | .ok () =>
      match work.outcome with
      | .error error => (.undone work.statements, .error error)
      | .ok (.discard value) => (.undone work.statements, .ok value)
      | .ok (.keep value) =>
          match committed with
          | .error error => (.refused work.statements, .error (OfFault.ofFault (.server error)))
          | .ok () => (.kept work.statements, .ok value)

section Verdicts

variable [OfFault ε] {statement sent : Statement} {read : Except Fault β} {next : β → Work ε α}
  {work : Work ε α} {begun committed : Except ServerError Unit}

theorem reading_of_error {fault : Fault} (failed : read = .error fault) :
    reading statement read next = ⟨[statement], .error (OfFault.ofFault fault)⟩ := by
  unfold reading
  rw [failed]

theorem reading_of_ok {value : β} (succeeded : read = .ok value) :
    reading statement read next =
      ⟨statement :: (next value).statements, (next value).outcome⟩ := by
  unfold reading
  rw [succeeded]

theorem mem_reading : sent ∈ (reading statement read next).statements ↔
    sent = statement ∨ ∃ value, read = .ok value ∧ sent ∈ (next value).statements := by
  cases read with
  | error fault => simp [reading]
  | ok value => simp [reading]

theorem reading_outcome {ending : Ending α} : (reading statement read next).outcome = .ok ending ↔
    ∃ value, read = .ok value ∧ (next value).outcome = .ok ending := by
  cases read with
  | error fault => simp [reading]
  | ok value => simp [reading]

theorem sent_verdict : .sent sent ∈ (work.verdict begun committed).1.events ↔
    begun = .ok () ∧ sent ∈ work.statements := by
  obtain ⟨statements, outcome⟩ := work
  rcases begun with error | _
  · simp [verdict, Course.events]
  · rcases outcome with error | (value | value)
    · simp [verdict, Course.events]
    · rcases committed with error | _ <;> simp [verdict, Course.events]
    · simp [verdict, Course.events]

theorem verdict_result {value : α} : (work.verdict begun committed).2 = .ok value ↔
    begun = .ok () ∧ (work.outcome = .ok (.discard value) ∨
      work.outcome = .ok (.keep value) ∧ committed = .ok ()) := by
  obtain ⟨statements, outcome⟩ := work
  rcases begun with error | _
  · simp [verdict]
  · rcases outcome with error | (kept | discarded)
    · simp [verdict]
    · rcases committed with error | _ <;> simp [verdict]
    · simp [verdict]

end Verdicts

/-- A run does the work, and leaves the server where it answers the commit in the given way. -/
structure Done (work : Work ε α) (server : Server σ) (committed : Except ServerError Unit)
    (run : Run σ ε (Ending α)) : Prop where
  sent : run.trace = work.statements.map .sent
  result : run.result = work.outcome
  commits : ∀ value, work.outcome = .ok (.keep value) → (server.commit run.state).1 = committed

variable {server : Server σ} {committed : Except ServerError Unit}

theorem Done.of_error {statements : List Statement} {error : ε} {run : Run σ ε (Ending α)}
    (sent : run.trace = statements.map .sent) (failed : run.result = .error error) :
    (⟨statements, .error error⟩ : Work ε α).Done server committed run where
  sent := sent
  result := failed
  commits _ impossible := nomatch impossible

theorem Done.reading [OfFault ε] {dialogue : Dialogue ε β} {next : β → Dialogue ε (Ending α)}
    {works : β → Work ε α} {statement : Statement} {read : Except Fault β} {state after : σ}
    (answered : (Session.ofDialogue dialogue).run server state =
      ⟨read.mapError OfFault.ofFault, after, [.sent statement]⟩)
    (rest : ∀ value, read = .ok value →
      (works value).Done server committed ((Session.ofDialogue (next value)).run server after)) :
    (Work.reading statement read works).Done server committed
      ((Session.ofDialogue (dialogue >>= next)).run server state) := by
  rw [Session.ofDialogue_bind, Session.run_bind, answered]
  cases read with
  | error fault => exact .of_error rfl rfl
  | ok value =>
      have later := rest value rfl
      rw [Run.andThen_of_ok rfl]
      exact ⟨congrArg (Event.sent statement :: ·) later.sent, later.result, later.commits⟩

theorem Done.bracket [OfFault ε] {work : Work ε α} {dialogue : Dialogue ε (Ending α)} {state : σ}
    (worked : work.Done server committed
      ((Session.ofDialogue dialogue).run server (server.begin state).2)) :
    let run := (Session.bracket dialogue).run server state
    run.trace = (work.verdict (server.begin state).1 committed).1.events ∧
      run.result = (work.verdict (server.begin state).1 committed).2 := by
  obtain ⟨statements, outcome⟩ := work
  cases begun : (server.begin state).1 with
  | error error =>
      rw [Session.run_bracket_of_refused begun]
      exact ⟨rfl, rfl⟩
  | ok =>
      rw [Session.run_bracket_of_opened begun]
      simp only [worked.sent, worked.result]
      cases outcome with
      | error error => exact ⟨rfl, rfl⟩
      | ok ending =>
          cases ending with
          | discard value => exact ⟨rfl, rfl⟩
          | keep value =>
              simp only [Session.ending, Session.conclude, Session.run_commit,
                worked.commits value rfl]
              cases committed with
              | error error => exact ⟨rfl, rfl⟩
              | ok => exact ⟨rfl, rfl⟩

end Work

end HazardStore
