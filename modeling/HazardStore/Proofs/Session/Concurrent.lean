import HazardStore.Proofs.Session.Runs
import Mathlib.Logic.Relation
/-!
Calls that are under way at the same time on one store. Every call is a session of a client of its
own; one client after the other takes a step, in any order, and a call may start at any time. A
statement that has to wait is one that the store does not answer yet.

A discipline says what holds of the store at all times, what no step undoes, and what the steps of
others leave alone for a client. A session that is secure under a discipline may be judged by itself:
it stays secure whatever the others do, as long as they are secure too.
-/

namespace HazardStore

/-- How a store answers its clients, which are told apart by numbers. -/
structure SharedStore (σ : Type) where
  Answers : Nat → (statement : Statement) → σ → Except ServerError (Reply statement) → σ → Prop
  Begins : Nat → σ → Except ServerError Unit → σ → Prop
  Commits : Nat → σ → Except ServerError Unit → σ → Prop
  RollsBack : Nat → σ → σ → Prop

def Server.shared {σ : Type} (server : Server σ) : SharedStore σ where
  Answers _ statement before reply after := server.answer statement before = (reply, after)
  Begins _ before outcome after := server.begin before = (outcome, after)
  Commits _ before outcome after := server.commit before = (outcome, after)
  RollsBack _ before after := server.rollback before = after

section Steps

variable {σ ρ ε α : Type}

inductive Session.Moves (store : SharedStore σ) (client : Nat) :
    Session ε α → σ → Session ε α → σ → Prop where
  | ask {statement : Statement} {next : Except ServerError (Reply statement) → Session ε α}
      {before after : σ} {reply : Except ServerError (Reply statement)}
      (answered : store.Answers client statement before reply after) :
      Moves store client (.ask statement next) before (next reply) after
  | note (entry : JournalEntry) (next : Session ε α) (state : σ) :
      Moves store client (.note entry next) state next state
  | begin {next : Except ServerError Unit → Session ε α} {before after : σ}
      {outcome : Except ServerError Unit} (began : store.Begins client before outcome after) :
      Moves store client (.begin next) before (next outcome) after
  | commit {next : Except ServerError Unit → Session ε α} {before after : σ}
      {outcome : Except ServerError Unit} (committed : store.Commits client before outcome after) :
      Moves store client (.commit next) before (next outcome) after
  | rollback {next : Session ε α} {before after : σ}
      (rolledBack : store.RollsBack client before after) :
      Moves store client (.rollback next) before next after

structure Call (ρ ε α : Type) where
  request : ρ
  session : Session ε α

/-- A store and the calls on it; the client of a call is its place in the list. -/
structure Traffic (σ ρ ε α : Type) where
  store : σ
  calls : List (Call ρ ε α)

structure Service (σ ρ ε α : Type) where
  store : SharedStore σ
  session : ρ → Session ε α
  Admits : List (Call ρ ε α) → ρ → Prop

namespace Traffic

inductive Step (service : Service σ ρ ε α) : Traffic σ ρ ε α → Traffic σ ρ ε α → Prop where
  | start (traffic : Traffic σ ρ ε α) (request : ρ)
      (admitted : service.Admits traffic.calls request) :
      Step service traffic ⟨traffic.store, traffic.calls ++ [⟨request, service.session request⟩]⟩
  | move (traffic : Traffic σ ρ ε α) (client : Nat) (call : Call ρ ε α)
      (there : traffic.calls[client]? = some call) (session : Session ε α) (after : σ)
      (moves : call.session.Moves service.store client traffic.store session after) :
      Step service traffic ⟨after, traffic.calls.set client ⟨call.request, session⟩⟩

def Reaches (service : Service σ ρ ε α) : Traffic σ ρ ε α → Traffic σ ρ ε α → Prop :=
  Relation.ReflTransGen (Step service)

variable {service : Service σ ρ ε α} {first traffic : Traffic σ ρ ε α}

theorem Reaches.start (reached : Reaches service first traffic) (request : ρ)
    (admitted : service.Admits traffic.calls request) :
    Reaches service first
      ⟨traffic.store, traffic.calls ++ [⟨request, service.session request⟩]⟩ :=
  Relation.ReflTransGen.tail reached (.start traffic request admitted)

theorem Reaches.move (reached : Reaches service first traffic) (client : Nat) {request : ρ}
    {session left : Session ε α} {after : σ}
    (there : traffic.calls[client]? = some ⟨request, session⟩)
    (moves : session.Moves service.store client traffic.store left after) :
    Reaches service first ⟨after, traffic.calls.set client ⟨request, left⟩⟩ :=
  Relation.ReflTransGen.tail reached (.move traffic client _ there left after moves)

end Traffic

end Steps

/-- What clients of a store can count on while others are at work. -/
structure Discipline (σ : Type) where
  /-- Holds at all times. -/
  Sound : σ → Prop
  Kept : σ → σ → Prop
  /-- What the steps of others leave alone for a client. -/
  Undisturbed : Nat → σ → σ → Prop
  Idle : Nat → σ → Prop
  kept_refl : ∀ state, Kept state state
  kept_trans : ∀ {first second third}, Kept first second → Kept second third → Kept first third
  undisturbed_refl : ∀ client state, Undisturbed client state state
  undisturbed_trans : ∀ {client first second third}, Undisturbed client first second →
    Undisturbed client second third → Undisturbed client first third
  idle_of_undisturbed : ∀ {client before after}, Undisturbed client before after →
    Idle client before → Idle client after

namespace Discipline

variable {σ : Type} (discipline : Discipline σ)

/-- How a client may find the store again after others were at work. -/
structure Later (client : Nat) (before after : σ) : Prop where
  sound : discipline.Sound after
  kept : discipline.Kept before after
  undisturbed : discipline.Undisturbed client before after

structure Allows (client : Nat) (before after : σ) : Prop where
  sound : discipline.Sound after
  kept : discipline.Kept before after
  undisturbed : ∀ other, other ≠ client → discipline.Undisturbed other before after

variable {discipline} {client : Nat} {first second third : σ}

theorem Later.refl (sound : discipline.Sound first) : discipline.Later client first first :=
  ⟨sound, discipline.kept_refl first, discipline.undisturbed_refl client first⟩

theorem Later.trans (left : discipline.Later client first second)
    (right : discipline.Later client second third) : discipline.Later client first third :=
  ⟨right.sound, discipline.kept_trans left.kept right.kept,
    discipline.undisturbed_trans left.undisturbed right.undisturbed⟩

theorem Allows.refl (sound : discipline.Sound first) : discipline.Allows client first first :=
  ⟨sound, discipline.kept_refl first, fun other _ => discipline.undisturbed_refl other first⟩

theorem Allows.trans (left : discipline.Allows client first second)
    (right : discipline.Allows client second third) : discipline.Allows client first third :=
  ⟨right.sound, discipline.kept_trans left.kept right.kept,
    fun other apart =>
      discipline.undisturbed_trans (left.undisturbed other apart) (right.undisturbed other apart)⟩

theorem Allows.later (allowed : discipline.Allows client first second) (other : Nat)
    (apart : other ≠ client) : discipline.Later other first second :=
  ⟨allowed.sound, allowed.kept, allowed.undisturbed other apart⟩

end Discipline

/-! ### Secure sessions -/

/-- A session that keeps the discipline with every step, from whatever the others leave, and ends only
as `post` says. -/
def Session.Secure {σ ε α : Type} (store : SharedStore σ) (discipline : Discipline σ) (client : Nat)
    (post : σ → Except ε α → Prop) : Session ε α → σ → Prop
  | .done value, state => ∀ later, discipline.Later client state later → post later (.ok value)
  | .fail error, state => ∀ later, discipline.Later client state later → post later (.error error)
  | .ask statement next, state => ∀ later, discipline.Later client state later →
      ∀ reply after, store.Answers client statement later reply after →
        discipline.Allows client later after ∧ (next reply).Secure store discipline client post after
  | .note _ next, state => next.Secure store discipline client post state
  | .begin next, state => ∀ later, discipline.Later client state later →
      ∀ outcome after, store.Begins client later outcome after →
        discipline.Allows client later after ∧
          (next outcome).Secure store discipline client post after
  | .commit next, state => ∀ later, discipline.Later client state later →
      ∀ outcome after, store.Commits client later outcome after →
        discipline.Allows client later after ∧
          (next outcome).Secure store discipline client post after
  | .rollback next, state => ∀ later, discipline.Later client state later →
      ∀ after, store.RollsBack client later after →
        discipline.Allows client later after ∧ next.Secure store discipline client post after

namespace Session.Secure

variable {σ ε α β : Type} {store : SharedStore σ} {discipline : Discipline σ} {client : Nat}

theorem later {post : σ → Except ε α → Prop} {session : Session ε α} {before after : σ}
    (secure : session.Secure store discipline client post before)
    (moved : discipline.Later client before after) :
    session.Secure store discipline client post after := by
  induction session with
  | done value => exact fun further next => secure further (moved.trans next)
  | fail error => exact fun further next => secure further (moved.trans next)
  | ask statement next _ => exact fun further now => secure further (moved.trans now)
  | note entry next ih => exact ih secure
  | begin next _ => exact fun further now => secure further (moved.trans now)
  | commit next _ => exact fun further now => secure further (moved.trans now)
  | rollback next _ => exact fun further now => secure further (moved.trans now)

theorem weaken {post weaker : σ → Except ε α → Prop} {session : Session ε α} {state : σ}
    (secure : session.Secure store discipline client post state)
    (implied : ∀ state outcome, post state outcome → weaker state outcome) :
    session.Secure store discipline client weaker state := by
  induction session generalizing state with
  | done value => exact fun later moved => implied later _ (secure later moved)
  | fail error => exact fun later moved => implied later _ (secure later moved)
  | ask statement next ih =>
      intro later moved reply after answered
      obtain ⟨allowed, left⟩ := secure later moved reply after answered
      exact ⟨allowed, ih reply left⟩
  | note entry next ih => exact ih secure
  | begin next ih =>
      intro later moved outcome after began
      obtain ⟨allowed, left⟩ := secure later moved outcome after began
      exact ⟨allowed, ih outcome left⟩
  | commit next ih =>
      intro later moved outcome after committed
      obtain ⟨allowed, left⟩ := secure later moved outcome after committed
      exact ⟨allowed, ih outcome left⟩
  | rollback next ih =>
      intro later moved after rolledBack
      obtain ⟨allowed, left⟩ := secure later moved after rolledBack
      exact ⟨allowed, ih left⟩

theorem moves {post : σ → Except ε α → Prop} {session left : Session ε α} {before after : σ}
    (secure : session.Secure store discipline client post before) (sound : discipline.Sound before)
    (moves : session.Moves store client before left after) :
    discipline.Allows client before after ∧ left.Secure store discipline client post after := by
  cases moves with
  | ask answered => exact secure before (.refl sound) _ _ answered
  | note entry next state => exact ⟨.refl sound, secure⟩
  | begin began => exact secure before (.refl sound) _ _ began
  | commit committed => exact secure before (.refl sound) _ _ committed
  | rollback rolledBack => exact secure before (.refl sound) _ rolledBack

theorem bind {middle : σ → Except ε α → Prop} {post : σ → Except ε β → Prop}
    {session : Session ε α} {continuation : α → Session ε β} {state : σ}
    (sound : discipline.Sound state) (first : session.Secure store discipline client middle state)
    (rest : ∀ value later, discipline.Sound later → middle later (.ok value) →
      (continuation value).Secure store discipline client post later)
    (failed : ∀ error later, discipline.Sound later → middle later (.error error) →
      post later (.error error)) :
    (session >>= continuation).Secure store discipline client post state := by
  change (session.bind continuation).Secure store discipline client post state
  induction session generalizing state with
  | done value => exact rest value state sound (first state (.refl sound))
  | fail error => exact fun later moved => failed error later moved.sound (first later moved)
  | ask statement next ih =>
      intro later moved reply after answered
      obtain ⟨allowed, secure⟩ := first later moved reply after answered
      exact ⟨allowed, ih reply allowed.sound secure⟩
  | note entry next ih => exact ih sound first
  | begin next ih =>
      intro later moved outcome after began
      obtain ⟨allowed, secure⟩ := first later moved outcome after began
      exact ⟨allowed, ih outcome allowed.sound secure⟩
  | commit next ih =>
      intro later moved outcome after committed
      obtain ⟨allowed, secure⟩ := first later moved outcome after committed
      exact ⟨allowed, ih outcome allowed.sound secure⟩
  | rollback next ih =>
      intro later moved after rolledBack
      obtain ⟨allowed, secure⟩ := first later moved after rolledBack
      exact ⟨allowed, ih allowed.sound secure⟩

theorem question [OfFault ε] {statement : Statement}
    {read : Except ServerError (Reply statement) → Except Fault α} {post : σ → Except ε α → Prop}
    {state : σ}
    (answered : ∀ later, discipline.Later client state later → ∀ outcome after,
      store.Answers client statement later outcome after →
        discipline.Allows client later after ∧ ∀ further, discipline.Later client after further →
          post further ((read outcome).mapError OfFault.ofFault)) :
    (ofDialogue (Dialogue.ask statement fun outcome => Dialogue.decoded (read outcome))).Secure
      store discipline client post state := by
  intro later moved outcome after replied
  obtain ⟨allowed, reads⟩ := answered later moved outcome after replied
  refine ⟨allowed, ?_⟩
  change (ofDialogue (Dialogue.decoded (read outcome))).Secure store discipline client post after
  cases value : read outcome with
  | ok value =>
      rw [value] at reads
      exact reads
  | error fault =>
      rw [value] at reads
      exact reads

theorem first? [OfFault ε] {statement : Statement} {decode : Dialogue.Decoder statement α}
    {post : σ → Except ε (Option α) → Prop} {state : σ}
    (answered : ∀ later, discipline.Later client state later → ∀ outcome after,
      store.Answers client statement later outcome after →
        discipline.Allows client later after ∧ ∀ further, discipline.Later client after further →
          post further ((Dialogue.firstOf? decode outcome).mapError OfFault.ofFault)) :
    (ofDialogue (Dialogue.first? statement decode)).Secure store discipline client post state := by
  rw [Dialogue.first?_eq]
  exact question answered

theorem first [OfFault ε] {statement : Statement} {decode : Dialogue.Decoder statement α}
    {post : σ → Except ε α → Prop} {state : σ}
    (answered : ∀ later, discipline.Later client state later → ∀ outcome after,
      store.Answers client statement later outcome after →
        discipline.Allows client later after ∧ ∀ further, discipline.Later client after further →
          post further ((Dialogue.firstOf decode outcome).mapError OfFault.ofFault)) :
    (ofDialogue (Dialogue.first statement decode)).Secure store discipline client post state := by
  rw [Dialogue.first_eq]
  exact question answered

theorem conclude [OfFault ε] {middle : σ → Except ε (Ending α) → Prop}
    {post : σ → Except ε α → Prop} {work : Dialogue ε (Ending α)} {state : σ}
    (sound : discipline.Sound state)
    (worked : (ofDialogue work).Secure store discipline client middle state)
    (ended : ∀ outcome later, discipline.Sound later → middle later outcome →
      (ending outcome).Secure store discipline client post later) :
    (Session.conclude work).Secure store discipline client post state := by
  induction work generalizing state with
  | done value =>
      have secure := ended (.ok value) state sound (worked state (.refl sound))
      cases value with
      | keep value => exact secure
      | discard value => exact secure
  | fail error => exact ended (.error error) state sound (worked state (.refl sound))
  | ask statement next ih =>
      intro later moved reply after answered
      obtain ⟨allowed, secure⟩ := worked later moved reply after answered
      exact ⟨allowed, ih reply allowed.sound secure⟩
  | note entry next ih => exact ih sound worked

end Session.Secure

namespace Traffic

variable {σ ρ ε α : Type} {service : Service σ ρ ε α} {discipline : Discipline σ}
  {post later : Nat → ρ → σ → Except ε α → Prop} {first : σ}

structure Holds (service : Service σ ρ ε α) (discipline : Discipline σ)
    (post : Nat → ρ → σ → Except ε α → Prop) (traffic : Traffic σ ρ ε α) : Prop where
  sound : discipline.Sound traffic.store
  secure : ∀ (client : Nat) (call : Call ρ ε α), traffic.calls[client]? = some call →
    call.session.Secure service.store discipline client (post client call.request) traffic.store
  idle : ∀ client, traffic.calls.length ≤ client → discipline.Idle client traffic.store

/-- Every call that starts after some state of the store is secure. -/
def Starts (service : Service σ ρ ε α) (discipline : Discipline σ)
    (post : Nat → ρ → σ → Except ε α → Prop) (first : σ) : Prop :=
  ∀ traffic request client, Holds service discipline post traffic →
    discipline.Kept first traffic.store → service.Admits traffic.calls request →
    discipline.Idle client traffic.store →
    (service.session request).Secure service.store discipline client (post client request)
      traffic.store

theorem Holds.step {traffic next : Traffic σ ρ ε α}
    (holds : Holds service discipline post traffic) (starts : Starts service discipline post first)
    (kept : discipline.Kept first traffic.store) (step : Step service traffic next) :
    Holds service discipline post next ∧ discipline.Kept traffic.store next.store := by
  cases step with
  | start request admitted =>
      -- the new call is the last one and finds its client idle
      refine ⟨⟨holds.sound, ?_, ?_⟩, discipline.kept_refl _⟩
      · intro client call there
        rcases Nat.lt_trichotomy client traffic.calls.length with before | here | beyond
        · rw [List.getElem?_append_left before] at there
          exact holds.secure client call there
        · rw [here, List.getElem?_concat_length] at there
          cases there
          exact starts traffic request client holds kept admitted
            (holds.idle client (Nat.le_of_eq here.symm))
        · rw [List.getElem?_eq_none (by rw [List.length_append]; exact beyond)] at there
          cases there
      · intro client beyond
        rw [List.length_append] at beyond
        exact holds.idle client (Nat.le_of_add_right_le beyond)
  | move mover call there session after moves =>
      obtain ⟨allowed, secure⟩ := (holds.secure mover call there).moves holds.sound moves
      -- an allowed step leaves the clients of the other calls undisturbed
      refine ⟨⟨allowed.sound, ?_, ?_⟩, allowed.kept⟩
      · intro client other found
        by_cases same : client = mover
        · subst same
          rw [List.getElem?_set_self (List.getElem?_eq_some_iff.1 there).1] at found
          cases found
          exact secure
        · rw [List.getElem?_set_ne (Ne.symm same)] at found
          exact (holds.secure client other found).later (allowed.later client same)
      · intro client beyond
        rw [List.length_set] at beyond
        have apart : client ≠ mover := by
          intro same
          rw [same, ← List.getElem?_eq_none_iff, there] at beyond
          cases beyond
        exact discipline.idle_of_undisturbed (allowed.undisturbed client apart)
          (holds.idle client beyond)

theorem Holds.reaches {traffic last : Traffic σ ρ ε α}
    (holds : Holds service discipline post traffic)
    (starts : Starts service discipline post traffic.store)
    (reached : Reaches service traffic last) :
    Holds service discipline post last ∧ discipline.Kept traffic.store last.store := by
  induction reached with
  | refl => exact ⟨holds, discipline.kept_refl _⟩
  | tail _ step ih =>
      obtain ⟨nextHolds, kept⟩ := ih.1.step starts ih.2 step
      exact ⟨nextHolds, discipline.kept_trans ih.2 kept⟩

/-- From some point on other things may be asked, as far as the calls there are fulfil them. -/
theorem Holds.restart {traffic : Traffic σ ρ ε α} (holds : Holds service discipline post traffic)
    (fulfilled : ∀ client, client < traffic.calls.length → ∀ request state outcome,
      post client request state outcome → later client request state outcome) :
    Holds service discipline later traffic where
  sound := holds.sound
  secure client call there := (holds.secure client call there).weaken
    (fulfilled client (List.getElem?_eq_some_iff.1 there).1 call.request)
  idle := holds.idle

theorem Holds.empty (state : σ) (sound : discipline.Sound state)
    (idle : ∀ client, discipline.Idle client state) :
    Holds service discipline post ⟨state, []⟩ where
  sound := sound
  secure _ _ there := by cases there
  idle client _ := idle client

theorem Holds.ended {traffic : Traffic σ ρ ε α} (holds : Holds service discipline post traffic)
    {client : Nat} {call : Call ρ ε α} (there : traffic.calls[client]? = some call) :
    (∀ value, call.session = .done value → post client call.request traffic.store (.ok value)) ∧
      (∀ error, call.session = .fail error →
        post client call.request traffic.store (.error error)) := by
  have secure := holds.secure client call there
  constructor
  · intro value done
    rw [done] at secure
    exact secure traffic.store (.refl holds.sound)
  · intro error failed
    rw [failed] at secure
    exact secure traffic.store (.refl holds.sound)

end Traffic

section Schedules

variable {σ ρ ε α : Type}

def Session.next? (server : Server σ) : Session ε α → σ → Option (Session ε α × σ)
  | .done _, _ => none
  | .fail _, _ => none
  | .ask statement next, state =>
      some (next (server.answer statement state).1, (server.answer statement state).2)
  | .note _ next, state => some (next, state)
  | .begin next, state => some (next (server.begin state).1, (server.begin state).2)
  | .commit next, state => some (next (server.commit state).1, (server.commit state).2)
  | .rollback next, state => some (next, server.rollback state)

theorem Session.moves_of_next? (server : Server σ) (client : Nat) (session left : Session ε α)
    (before after : σ) (moved : session.next? server before = some (left, after)) :
    session.Moves server.shared client before left after := by
  cases session with
  | done value => cases moved
  | fail error => cases moved
  | ask statement next => cases moved; exact .ask rfl
  | note entry next => cases moved; exact .note entry _ _
  | begin next => cases moved; exact .begin rfl
  | commit next => cases moved; exact .commit rfl
  | rollback next => cases moved; exact .rollback rfl

def Call.given? (call : Call ρ ε α) : Option α :=
  match call.session with
  | .done value => some value
  | _ => none

theorem Call.session_of_given? (call : Call ρ ε α) (value : α) (given : call.given? = some value) :
    call.session = .done value := by
  unfold given? at given
  split at given
  · rename_i same
    cases given
    exact same
  · cases given

/-- Whose turn it is: that of a new call, or of one that is under way. -/
inductive Turn (ρ : Type) where
  | start (request : ρ)
  | move (client : Nat)

namespace Traffic

def take (server : Server σ) (session : ρ → Session ε α) (traffic : Traffic σ ρ ε α) :
    Turn ρ → Traffic σ ρ ε α
  | .start request => ⟨traffic.store, traffic.calls ++ [⟨request, session request⟩]⟩
  | .move client =>
      match traffic.calls[client]? with
      | none => traffic
      | some call =>
          match call.session.next? server traffic.store with
          | none => traffic
          | some (left, after) => ⟨after, traffic.calls.set client ⟨call.request, left⟩⟩

theorem reaches_take (server : Server σ) (session : ρ → Session ε α) (turns : List (Turn ρ))
    (traffic : Traffic σ ρ ε α) :
    Reaches ⟨server.shared, session, fun _ _ => True⟩ traffic
      (turns.foldl (take server session) traffic) := by
  induction turns generalizing traffic with
  | nil => exact .refl
  | cons turn turns ih =>
      refine Relation.ReflTransGen.trans ?_ (ih (take server session traffic turn))
      cases turn with
      | start request => exact .single (.start traffic request trivial)
      | move client =>
          cases there : traffic.calls[client]? with
          | none =>
              simp only [take, there]
              exact .refl
          | some call =>
              cases moved : call.session.next? server traffic.store with
              | none =>
                  simp only [take, there, moved]
                  exact .refl
              | some step =>
                  obtain ⟨left, after⟩ := step
                  simp only [take, there, moved]
                  exact .single (.move traffic client call there left after
                    (Session.moves_of_next? server client _ _ _ _ moved))

end Traffic

end Schedules

end HazardStore
