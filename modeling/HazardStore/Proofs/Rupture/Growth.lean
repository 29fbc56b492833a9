import HazardStore.Proofs.Rupture.Database
import HazardStore.Proofs.Rupture.Selection
import HazardStore.Proofs.Session.Statements
import Mathlib.Data.List.Sort
/-!
A database to which fields are added and that is read at the same time. A query of a site joins
fields with their ruptures as they are committed when it is answered. While all that is written are
fields, what was read at any time is found again among the first of the fields that are there later.
-/

namespace HazardStore

def FieldRow.Precedes (left right : FieldRow) : Prop :=
  left.event < right.event ∨ left.event = right.event ∧ left.id ≤ right.id

instance : DecidableRel FieldRow.Precedes :=
  fun left right => inferInstanceAs
    (Decidable (left.event < right.event ∨ left.event = right.event ∧ left.id ≤ right.id))

namespace Tables

def fieldsOfMeasure (tables : Tables) (container measure : RecordId) : List FieldRow :=
  (tables.fields.filter (fun field =>
    field.container == container && field.measure == measure)).insertionSort FieldRow.Precedes

theorem mem_fieldsOfMeasure {tables : Tables} {container measure : RecordId} {field : FieldRow} :
    field ∈ tables.fieldsOfMeasure container measure ↔
      field ∈ tables.fields ∧ field.container = container ∧ field.measure = measure := by
  rw [fieldsOfMeasure, List.mem_insertionSort, List.mem_filter, Bool.and_eq_true, beq_iff_eq,
    beq_iff_eq]

def rupturesOf (tables : Tables) (event : RecordId) : List RuptureRow :=
  (tables.events.filter (fun row => row.id == event)).flatMap (fun row =>
    tables.ruptures.filter (fun rupture => rupture.id == row.rupture))

/-- The join that is queried: the fields of ruptures that list the site or list none. -/
def fieldsAtSite (tables : Tables) (container measure : RecordId) (site : SiteId) :
    List Fields.FieldAtSite :=
  (tables.fieldsOfMeasure container measure).flatMap (fun field =>
    ((tables.rupturesOf field.event).filter (fun rupture =>
      rupture.sites?.elim true (fun sites => sites.contains site))).map (fun rupture =>
        ⟨field.event, field.values, rupture.sites?⟩))

def valuesAtSite (tables : Tables) (container measure : RecordId) (site : SiteId) :
    GroundMotion.SiteValues :=
  (tables.fieldsAtSite container measure site).filterMap (Fields.FieldAtSite.valueAt? site)

def alignedAt (tables : Tables) (container measure : RecordId) (sites : List SiteId) :
    GroundMotion.AlignedField :=
  GroundMotion.align (sites.map (fun site => (site, tables.valuesAtSite container measure site)))

def upTo (tables : Tables) (count : Nat) : Tables :=
  { tables with fields := tables.fields.take count }

/-- Fields were added and nothing else changed. -/
structure Grows (before after : Tables) : Prop where
  ruptures : after.ruptures = before.ruptures
  events : after.events = before.events
  fields : before.fields <+: after.fields

variable {before after later tables : Tables}

theorem Grows.refl (tables : Tables) : tables.Grows tables :=
  ⟨rfl, rfl, List.prefix_refl _⟩

theorem Grows.trans (first : before.Grows after) (second : after.Grows later) :
    before.Grows later :=
  ⟨second.ruptures.trans first.ruptures, second.events.trans first.events,
    first.fields.trans second.fields⟩

theorem Grows.addField (tables : Tables) (row : FieldRow) :
    tables.Grows ((Change.addField row).apply tables) :=
  ⟨rfl, rfl, List.prefix_append _ _⟩

theorem Grows.length_le (grows : before.Grows after) : before.fields.length ≤ after.fields.length :=
  grows.fields.length_le

theorem Grows.upTo (grows : before.Grows after) {count : Nat}
    (bound : count ≤ before.fields.length) : after.upTo count = before.upTo count := by
  obtain ⟨added, same⟩ := grows.fields
  simp only [Tables.upTo, ← same, List.take_append_of_le_length bound, grows.ruptures, grows.events]

theorem upTo_length (tables : Tables) : tables.upTo tables.fields.length = tables := by
  rw [upTo, List.take_length]

theorem Grows.eq_upTo (grows : before.Grows after) : after.upTo before.fields.length = before := by
  rw [grows.upTo (Nat.le_refl _), upTo_length]

/-- Fields that are added take no value away. -/
theorem valuesAtSite_upTo_subset (tables : Tables) (container measure : RecordId) (site : SiteId)
    (count : Nat) : (tables.upTo count).valuesAtSite container measure site ⊆
      tables.valuesAtSite container measure site := by
  have fewer : (tables.upTo count).fieldsOfMeasure container measure ⊆
      tables.fieldsOfMeasure container measure := by
    intro field member
    rw [mem_fieldsOfMeasure] at member ⊢
    exact ⟨List.mem_of_mem_take member.1, member.2⟩
  intro value member
  obtain ⟨row, there, read⟩ := List.mem_filterMap.1 member
  obtain ⟨field, chosen, joined⟩ := List.mem_flatMap.1 there
  exact List.mem_filterMap.2 ⟨row, List.mem_flatMap.2 ⟨field, fewer chosen, joined⟩, read⟩

/-- Fields of other containers and measures make no difference. -/
theorem valuesAtSite_upTo {container measure : RecordId} (site : SiteId) {count : Nat}
    (others : ∀ field ∈ tables.fields.drop count,
      ¬(field.container = container ∧ field.measure = measure)) :
    (tables.upTo count).valuesAtSite container measure site =
      tables.valuesAtSite container measure site := by
  have nothing : (tables.fields.drop count).filter (fun field =>
      field.container == container && field.measure == measure) = [] := by
    apply List.filter_eq_nil_iff.2
    intro field member
    rw [Bool.and_eq_true, beq_iff_eq, beq_iff_eq]
    exact others field member
  have same : (tables.upTo count).fieldsOfMeasure container measure =
      tables.fieldsOfMeasure container measure := by
    have split := congrArg (List.filter (fun field =>
      field.container == container && field.measure == measure))
      (List.take_append_drop count tables.fields)
    rw [List.filter_append, nothing, List.append_nil] at split
    simp only [fieldsOfMeasure, upTo, split]
  simp only [valuesAtSite, fieldsAtSite, same]
  rfl

end Tables

namespace Database

/-- Queries of a site are answered as well, from what is committed and the client's own changes. -/
inductive Reads : Nat → (statement : Statement) → Database → Except ServerError (Reply statement) →
    Database → Prop where
  | written {client : Nat} {statement : Statement} {before after : Database}
      {reply : Except ServerError (Reply statement)}
      (answered : Answers client statement before reply after) :
      Reads client statement before reply after
  | fieldsAtSite (client : Nat) (container measure : RecordId) (site : SiteId)
      (database : Database) :
      Reads client (.fieldsAtSite container measure site) database
        (.ok (.rows (((database.view client).fieldsAtSite container measure site).map
          Fields.FieldAtSite.cells))) database

def readable : SharedStore Database :=
  { shared with Answers := Reads }

/-- All that is written are fields, on top of the first tables. -/
structure OnlyFields (first : Tables) (database : Database) : Prop where
  grows : first.Grows database.committed
  pending : ∀ client transaction, database.transactions client = some transaction →
    ∀ change ∈ transaction.changes, ∃ row, change = .addField row

def growing (first : Tables) : Discipline Database where
  Sound := OnlyFields first
  Kept before after := before.committed.Grows after.committed
  Undisturbed client before after := after.transactions client = before.transactions client
  Idle client database := database.transactions client = none
  kept_refl _ := .refl _
  kept_trans first second := first.trans second
  undisturbed_refl _ _ := rfl
  undisturbed_trans left right := right.trans left
  idle_of_undisturbed undisturbed idle := undisturbed.trans idle

variable {first : Tables} {before after database : Database} {client : Nat}

theorem grows_of_changes {changes : List Change} (tables : Tables)
    (added : ∀ change ∈ changes, ∃ row, change = .addField row) :
    tables.Grows (changes.foldl (fun tables change => change.apply tables) tables) := by
  induction changes generalizing tables with
  | nil => exact .refl tables
  | cons change others ih =>
      obtain ⟨row, same⟩ := added change (List.mem_cons_self ..)
      rw [List.foldl_cons, same]
      exact (Tables.Grows.addField tables row).trans
        (ih _ (fun other member => added other (List.mem_cons_of_mem _ member)))

theorem OnlyFields.grows_view (only : database.OnlyFields first) (client : Nat) :
    database.committed.Grows (database.view client) := by
  unfold view
  cases found : database.transactions client with
  | none => exact .refl _
  | some transaction => exact grows_of_changes _ (only.pending client transaction found)

/-- A client may have any transaction that only adds fields, and commit fields with it. -/
theorem allows_growth (only : before.OnlyFields first)
    (grows : before.committed.Grows after.committed)
    (others : ∀ other, other ≠ client → after.transactions other = before.transactions other)
    (own : ∀ transaction, after.transactions client = some transaction →
      ∀ change ∈ transaction.changes, ∃ row, change = .addField row) :
    (growing first).Allows client before after where
  sound := by
    refine ⟨only.grows.trans grows, ?_⟩
    intro other transaction found
    by_cases here : other = client
    · rw [here] at found
      exact own transaction found
    · rw [others other here] at found
      exact only.pending other transaction found
  kept := grows
  undisturbed := others

theorem growth_setTransaction (only : database.OnlyFields first) (transaction? : Option Transaction)
    (own : ∀ transaction ∈ transaction?, ∀ change ∈ transaction.changes,
      ∃ row, change = .addField row) :
    (growing first).Allows client database (database.setTransaction client transaction?) := by
  refine allows_growth only (Tables.Grows.refl database.committed)
    (fun other apart => setTransaction_other database transaction? apart) ?_
  intro transaction found
  rw [setTransaction_self] at found
  exact own transaction found

theorem growth_share (only : database.OnlyFields first) (ruptures : List RecordId) :
    (growing first).Allows client database (database.share client ruptures) := by
  apply growth_setTransaction only
  intro transaction found change member
  obtain ⟨old, present, same⟩ := Option.map_eq_some_iff.1 found
  rw [← same] at member
  exact only.pending client old present change member

theorem growth_record (only : database.OnlyFields first) (row : FieldRow) :
    (growing first).Allows client database (database.record client (.addField row)) := by
  unfold record
  cases found : database.transactions client with
  | none =>
      exact allows_growth only (.addField _ row) (fun _ _ => rfl) (only.pending client)
  | some transaction =>
      apply growth_setTransaction only
      intro next same change member
      cases same
      rcases List.mem_append.1 member with old | new
      · exact only.pending client transaction found change old
      · exact ⟨row, List.mem_singleton.1 new⟩

theorem growth_keep (only : database.OnlyFields first) :
    (growing first).Allows client database (database.keep client) := by
  refine allows_growth only (only.grows_view client)
    (fun other apart => setTransaction_other database none apart) ?_
  intro transaction found
  simp only [keep, setTransaction_self] at found
  cases found

def StoresField : Statement → Prop
  | .shareSites _ => True
  | .insertField _ => True
  | _ => False

theorem growth_reads {statement : Statement} {reply : Except ServerError (Reply statement)}
    (stores : StoresField statement) (only : before.OnlyFields first)
    (answered : Reads client statement before reply after) :
    (growing first).Allows client before after := by
  cases answered with
  | fieldsAtSite => exact stores.elim
  | written answered =>
      cases answered with
      | refused => exact .refl only
      | shareSites => exact growth_share only _
      | insertField => exact growth_record only _
      | insertRupture => exact stores.elim
      | insertEvent => exact stores.elim
      | lockSites => exact stores.elim
      | countFields => exact stores.elim
      | updateSites => exact stores.elim

theorem secure_of_storesField {ε α : Type} {session : Session ε α}
    (stores : session.SendsOnly StoresField) (state : Database) :
    session.Secure readable (growing first) client (fun _ _ => True) state := by
  induction stores generalizing state with
  | done value => exact fun _ _ => trivial
  | fail error => exact fun _ _ => trivial
  | ask statement next here _ ih =>
      intro later moved reply after answered
      exact ⟨growth_reads here moved.sound answered, ih reply after⟩
  | note entry next _ ih => exact ih state
  | begin next _ ih =>
      intro later moved outcome after began
      refine ⟨?_, ih outcome after⟩
      cases began with
      | refused => exact .refl moved.sound
      | opened =>
          apply growth_setTransaction moved.sound
          intro transaction same
          cases same
          exact fun _ member => absurd member List.not_mem_nil
  | commit next _ ih =>
      intro later moved outcome after committed
      refine ⟨?_, ih outcome after⟩
      cases committed with
      | accepted => exact growth_keep moved.sound
      | refused => exact growth_setTransaction moved.sound none (fun _ none => nomatch none)
      | unheard => exact growth_keep moved.sound
  | rollback next _ ih =>
      intro later moved after rolledBack
      have same : after = later.setTransaction client none := rolledBack
      rw [same]
      exact ⟨growth_setTransaction moved.sound none (fun _ none => nomatch none), ih _⟩

theorem create_storesField (request : NewField) :
    (Fields.create request).SendsOnly StoresField := by
  apply Session.SendsOnly.bracket
  apply Dialogue.SendsOnly.bind (.first? _ _ trivial)
  intro sites?
  apply Dialogue.SendsOnly.bind (.ofExcept _)
  intro checked
  apply Dialogue.SendsOnly.bind (.first _ _ trivial)
  exact fun row => .done _

end Database

end HazardStore
