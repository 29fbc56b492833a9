import HazardStore.Proofs.Rupture.Tables
import HazardStore.Proofs.Server.Effects
import HazardStore.Proofs.Session.Concurrent
import HazardStore.Store.Events
import HazardStore.Store.Fields
import HazardStore.Store.Ruptures
/-!
A database with transactions that read what is committed at each statement. A transaction sees its
own changes on top of what is committed, and they are committed together. Locks on a rupture last to
the end of the transaction: one that is taken for an update excludes every other lock, one that is
shared excludes only those. A statement that meets a lock it cannot have is not answered until the
lock is gone, and reads what is committed then.

Keys of rows that are referred to are checked without waiting for locks, and an identity is fresh
when no client sees a row that has it. Both leave more room than the real server does.
-/

namespace HazardStore

def RuptureRow.cells (row : RuptureRow) : Cells Statement.ruptureColumns :=
  (some row.id, some row.magnitude, some row.rake, some row.tectonicRegion,
    some row.fromFaultSource, row.sites?.map (List.map some), some row.createdAt, ())

def RuptureRow.sitesCell (row : RuptureRow) : Cells [.integers] :=
  (row.sites?.map (List.map some), ())

def EventRow.cells (row : EventRow) : Cells Statement.eventColumns :=
  (some row.id, some row.rupture, some row.eventSet, some row.tag, some row.seed,
    some row.createdAt, ())

def FieldRow.cells (row : FieldRow) : Cells Statement.fieldColumns :=
  (some row.id, some row.event, some row.container, some row.measure, some (row.values.map some), ())

def NewRupture.row (request : NewRupture) (id : RecordId) (createdAt : Instant) : RuptureRow where
  id := id
  magnitude := request.magnitude
  rake := request.rake
  tectonicRegion := request.tectonicRegion
  fromFaultSource := request.fromFaultSource?.getD false
  sites? := request.sites?
  createdAt := createdAt

def NewEvent.row (request : NewEvent) (id : RecordId) (createdAt : Instant) : EventRow where
  id := id
  rupture := request.rupture
  eventSet := request.eventSet
  tag := request.tag
  seed := request.seed
  createdAt := createdAt

def NewField.row (request : NewField) (id : RecordId) : FieldRow where
  id := id
  event := request.event
  container := request.container
  measure := request.measure
  values := request.values

theorem RuptureRow.integers?_sitesCell (row : RuptureRow) :
    Dialogue.integers? row.sitesCell = .ok row.sites? :=
  Dialogue.elements?_map_some _ _

theorem FieldRow.decodeRow_cells (row : FieldRow) : Fields.decodeRow row.cells = .ok row := by
  change (Dialogue.elements _ (row.values.map some) >>= fun values =>
    Except.ok (FieldRow.mk row.id row.event row.container row.measure values)) = _
  rw [Dialogue.elements_map_some]
  rfl

/-- The changes of an open transaction, oldest first, and the ruptures it has locked. -/
structure Transaction where
  changes : List Change
  shared : List RecordId
  owned : List RecordId

def Transaction.opened : Transaction :=
  ⟨[], [], []⟩

structure Database where
  committed : Tables
  transactions : Nat → Option Transaction

namespace Database

def empty : Database :=
  ⟨Tables.empty, fun _ => none⟩

def Owns (database : Database) (client : Nat) (rupture : RecordId) : Prop :=
  ∃ transaction, database.transactions client = some transaction ∧ rupture ∈ transaction.owned

def Holds (database : Database) (client : Nat) (rupture : RecordId) : Prop :=
  ∃ transaction, database.transactions client = some transaction ∧
    (rupture ∈ transaction.shared ∨ rupture ∈ transaction.owned)

/-- What a client reads: what is committed and its own changes. -/
def view (database : Database) (client : Nat) : Tables :=
  match database.transactions client with
  | none => database.committed
  | some transaction =>
      transaction.changes.foldl (fun tables change => change.apply tables) database.committed

def setTransaction (database : Database) (client : Nat) (transaction? : Option Transaction) :
    Database :=
  { database with
    transactions := fun other =>
      if other = client then transaction? else database.transactions other }

/-- Outside a transaction a change is committed at once. -/
def record (database : Database) (client : Nat) (change : Change) : Database :=
  match database.transactions client with
  | none => { database with committed := change.apply database.committed }
  | some transaction =>
      database.setTransaction client
        (some { transaction with changes := transaction.changes ++ [change] })

/-- Outside a transaction a lock is gone with its statement. -/
def own (database : Database) (client : Nat) (ruptures : List RecordId) : Database :=
  database.setTransaction client ((database.transactions client).map (fun transaction =>
    { transaction with owned := ruptures ++ transaction.owned }))

def share (database : Database) (client : Nat) (ruptures : List RecordId) : Database :=
  database.setTransaction client ((database.transactions client).map (fun transaction =>
    { transaction with shared := ruptures ++ transaction.shared }))

def keep (database : Database) (client : Nat) : Database :=
  { database.setTransaction client none with committed := database.view client }

def named (database : Database) (client : Nat) (rupture : RecordId) : List RuptureRow :=
  (database.view client).ruptures.filter (fun row => row.id == rupture)

def joined (database : Database) (client : Nat) (event : RecordId) : List RuptureRow :=
  ((database.view client).events.filter (fun row => row.id == event)).flatMap
    (fun row => database.named client row.rupture)

def Unheld (database : Database) (client : Nat) (ruptures : List RecordId) : Prop :=
  ∀ rupture ∈ ruptures, ∀ other, other ≠ client → ¬database.Holds other rupture

def Unowned (database : Database) (client : Nat) (ruptures : List RecordId) : Prop :=
  ∀ rupture ∈ ruptures, ∀ other, other ≠ client → ¬database.Owns other rupture

inductive Answers : Nat → (statement : Statement) → Database →
    Except ServerError (Reply statement) → Database → Prop where
  | refused (client : Nat) (statement : Statement) (database : Database) (error : ServerError) :
      Answers client statement database (.error error) database
  | insertRupture (client : Nat) (request : NewRupture) (database : Database) (id : RecordId)
      (createdAt : Instant)
      (fresh : ∀ other, ∀ row ∈ (database.view other).ruptures, row.id ≠ id) :
      Answers client (.insertRupture request) database
        (.ok (.rows [(request.row id createdAt).cells]))
        (database.record client (.addRupture (request.row id createdAt)))
  | insertEvent (client : Nat) (request : NewEvent) (database : Database) (id : RecordId)
      (createdAt : Instant) (fresh : ∀ other, ∀ row ∈ (database.view other).events, row.id ≠ id)
      (placed : database.named client request.rupture ≠ []) :
      Answers client (.insertEvent request) database
        (.ok (.rows [(request.row id createdAt).cells]))
        (database.record client (.addEvent (request.row id createdAt)))
  | lockSites (client : Nat) (rupture : RecordId) (database : Database)
      (free : database.Unheld client ((database.named client rupture).map RuptureRow.id)) :
      Answers client (.lockSites rupture) database
        (.ok (.rows ((database.named client rupture).map RuptureRow.sitesCell)))
        (database.own client ((database.named client rupture).map RuptureRow.id))
  | countFields (client : Nat) (rupture : RecordId) (database : Database) (total : Int64)
      (counted : total.toInt = ((database.view client).fieldsOf rupture).length) :
      Answers client (.countFields rupture) database (.ok (.rows [(some total, ())])) database
  | updateSites (client : Nat) (rupture : RecordId) (sites : List SiteId) (database : Database)
      (free : database.Unheld client ((database.named client rupture).map RuptureRow.id)) :
      Answers client (.updateSites rupture sites) database
        (.ok (.rows ((database.named client rupture).map (fun row =>
          (row.assign rupture sites).cells))))
        ((database.own client ((database.named client rupture).map RuptureRow.id)).record client
          (.assignSites rupture sites))
  | shareSites (client : Nat) (event : RecordId) (database : Database)
      (free : database.Unowned client ((database.joined client event).map RuptureRow.id)) :
      Answers client (.shareSites event) database
        (.ok (.rows ((database.joined client event).map RuptureRow.sitesCell)))
        (database.share client ((database.joined client event).map RuptureRow.id))
  | insertField (client : Nat) (request : NewField) (database : Database) (id : RecordId)
      (fresh : ∀ other, ∀ row ∈ (database.view other).fields, row.id ≠ id)
      (placed : ∃ row ∈ (database.view client).events, row.id = request.event) :
      Answers client (.insertField request) database (.ok (.rows [(request.row id).cells]))
        (database.record client (.addField (request.row id)))

inductive Begins : Nat → Database → Except ServerError Unit → Database → Prop where
  | opened (client : Nat) (database : Database) :
      Begins client database (.ok ()) (database.setTransaction client (some .opened))
  | refused (client : Nat) (database : Database) (error : ServerError) :
      Begins client database (.error error) database

inductive Commits : Nat → Database → Except ServerError Unit → Database → Prop where
  | accepted (client : Nat) (database : Database) :
      Commits client database (.ok ()) (database.keep client)
  | refused (client : Nat) (database : Database) (error : ServerError) :
      Commits client database (.error error) (database.setTransaction client none)
  /-- The changes are committed and the word of it is lost. -/
  | unheard (client : Nat) (database : Database) (error : ServerError) :
      Commits client database (.error error) (database.keep client)

def shared : SharedStore Database where
  Answers := Answers
  Begins := Begins
  Commits := Commits
  RollsBack client before after := after = before.setTransaction client none

variable {database : Database} {client other : Nat} {rupture : RecordId}

@[simp]
theorem setTransaction_self (database : Database) (client : Nat)
    (transaction? : Option Transaction) :
    (database.setTransaction client transaction?).transactions client = transaction? :=
  if_pos rfl

theorem setTransaction_other (database : Database) (transaction? : Option Transaction)
    (apart : other ≠ client) :
    (database.setTransaction client transaction?).transactions other = database.transactions other :=
  if_neg apart

theorem Owns.holds (owns : database.Owns client rupture) : database.Holds client rupture := by
  obtain ⟨transaction, present, member⟩ := owns
  exact ⟨transaction, present, Or.inr member⟩

theorem mem_named {row : RuptureRow} :
    row ∈ database.named client rupture ↔
      row ∈ (database.view client).ruptures ∧ row.id = rupture := by
  unfold named
  rw [List.mem_filter, beq_iff_eq]

theorem lists_of_mem_named {row : RuptureRow} (member : row ∈ database.named client rupture) :
    (database.view client).Lists rupture row.sites? :=
  ⟨row, (mem_named.1 member).1, (mem_named.1 member).2, rfl⟩

theorem mem_joined {row : RuptureRow} {event : RecordId} :
    row ∈ database.joined client event ↔
      ∃ owner ∈ (database.view client).events, owner.id = event ∧
        row ∈ database.named client owner.rupture := by
  unfold joined
  constructor
  · intro member
    obtain ⟨owner, chosen, named⟩ := List.mem_flatMap.1 member
    obtain ⟨there, same⟩ := List.mem_filter.1 chosen
    exact ⟨owner, there, beq_iff_eq.1 same, named⟩
  · intro known
    obtain ⟨owner, there, same, named⟩ := known
    exact List.mem_flatMap.2 ⟨owner, List.mem_filter.2 ⟨there, beq_iff_eq.2 same⟩, named⟩

def Free (database : Database) (client : Nat) (ruptures : List RecordId) : Option Lock → Prop
  | some (.owned _) => database.Unheld client ruptures
  | some (.shared _) => database.Unowned client ruptures
  | none => True

end Database

def Transaction.locking (transaction : Transaction) (ruptures : List RecordId) :
    Option Lock → Transaction
  | some (.owned tables) =>
      if "hzrdr.probabilistic_rupture" ∈ tables then
        { transaction with owned := ruptures ++ transaction.owned }
      else transaction
  | some (.shared tables) =>
      if "hzrdr.probabilistic_rupture" ∈ tables then
        { transaction with shared := ruptures ++ transaction.shared }
      else transaction
  | none => transaction

namespace Database

/-- What becomes of a transaction is told by the text that is answered. The lock that the text asks
for is taken where nobody is in its way, and only a text that reads leaves the changes as they are. -/
theorem Answers.told {statement : Statement} {before after : Database} {reply : Reply statement}
    (answered : Answers client statement before (.ok reply) after) :
    ∃ ruptures changes, before.Free client ruptures (Lock.ofText statement.text) ∧
      after.transactions client = (before.transactions client).map (fun transaction =>
        { transaction.locking ruptures (Lock.ofText statement.text) with
          changes := transaction.changes ++ changes }) ∧
      (Effect.ofText statement.text = .reads ↔ changes = []) := by
  have recorded (database : Database) (change : Change) :
      (database.record client change).transactions client =
        (database.transactions client).map (fun transaction =>
          { transaction with changes := transaction.changes ++ [change] }) := by
    unfold record
    cases opened : database.transactions client with
    | none => exact opened
    | some transaction => exact setTransaction_self _ _ _
  rw [Lock.ofText_statement, Effect.ofText_statement]
  cases answered with
  | insertRupture =>
      exact ⟨[], _, trivial, recorded _ _, iff_of_false nofun nofun⟩
  | insertEvent =>
      exact ⟨[], _, trivial, recorded _ _, iff_of_false nofun nofun⟩
  | insertField =>
      exact ⟨[], _, trivial, recorded _ _, iff_of_false nofun nofun⟩
  | lockSites _ _ free =>
      refine ⟨_, [], free, (setTransaction_self _ _ _).trans ?_, iff_of_true rfl rfl⟩
      simp [Statement.lock?, Transaction.locking]
  | shareSites _ _ free =>
      refine ⟨_, [], free, (setTransaction_self _ _ _).trans ?_, iff_of_true rfl rfl⟩
      simp [Statement.lock?, Transaction.locking]
  | countFields =>
      refine ⟨[], [], trivial, ?_, iff_of_true rfl rfl⟩
      simp [Statement.lock?, Transaction.locking]
  | updateSites rupture sites _ free =>
      refine ⟨_, [.assignSites rupture sites], free, (recorded _ _).trans ?_,
        iff_of_false nofun nofun⟩
      simp [own, Statement.lock?, Transaction.locking, Function.comp_def]

end Database

end HazardStore
