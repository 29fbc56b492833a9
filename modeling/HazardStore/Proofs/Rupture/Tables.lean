import Mathlib.Data.List.Nodup
import HazardStore.Proofs.GroundMotion.Field
import HazardStore.Record
/-!
The tables of ruptures, event ruptures and fields, and the changes that clients make to them. Tables
are sound when their keys hold, every list of sites is one that may be stored, and every field fits
the sites of its rupture. A change that is admissible keeps them so and does not touch the sites of a
rupture that has a field.
-/

namespace HazardStore

structure Tables where
  ruptures : List RuptureRow
  events : List EventRow
  fields : List FieldRow
deriving DecidableEq

inductive Change where
  | addRupture (row : RuptureRow)
  | addEvent (row : EventRow)
  | addField (row : FieldRow)
  | assignSites (rupture : RecordId) (sites : List SiteId)
deriving DecidableEq

def RuptureRow.assign (rupture : RecordId) (sites : List SiteId) (row : RuptureRow) : RuptureRow :=
  if row.id = rupture then { row with sites? := some sites } else row

def Change.apply : Change → Tables → Tables
  | .addRupture row, tables => { tables with ruptures := tables.ruptures ++ [row] }
  | .addEvent row, tables => { tables with events := tables.events ++ [row] }
  | .addField row, tables => { tables with fields := tables.fields ++ [row] }
  | .assignSites rupture sites, tables =>
      { tables with ruptures := tables.ruptures.map (RuptureRow.assign rupture sites) }

namespace RuptureRow

@[simp]
theorem assign_id (rupture : RecordId) (sites : List SiteId) (row : RuptureRow) :
    (row.assign rupture sites).id = row.id := by
  unfold assign
  split <;> rfl

theorem assign_of_ne {rupture : RecordId} (sites : List SiteId) {row : RuptureRow}
    (apart : row.id ≠ rupture) : row.assign rupture sites = row :=
  if_neg apart

theorem assign_sites? (rupture : RecordId) (sites : List SiteId) (row : RuptureRow) :
    (row.assign rupture sites).sites? = some sites ∨ row.assign rupture sites = row := by
  unfold assign
  split
  · exact Or.inl rfl
  · exact Or.inr rfl

end RuptureRow

namespace Tables

def Lists (tables : Tables) (rupture : RecordId) (sites? : Option (List SiteId)) : Prop :=
  ∃ row ∈ tables.ruptures, row.id = rupture ∧ row.sites? = sites?

def Covered (tables : Tables) (rupture : RecordId) : Prop :=
  ∃ field ∈ tables.fields, ∃ event ∈ tables.events, event.id = field.event ∧ event.rupture = rupture

def RuptureOf (tables : Tables) (field : FieldRow) (row : RuptureRow) : Prop :=
  row ∈ tables.ruptures ∧ ∃ event ∈ tables.events, event.id = field.event ∧ event.rupture = row.id

def Fits (tables : Tables) (field : FieldRow) : Prop :=
  ∃ event ∈ tables.events, event.id = field.event ∧
    ∃ sites?, tables.Lists event.rupture sites? ∧
      GroundMotion.checkField sites? field.values = .ok ()

/-- The fields that are counted before the sites of a rupture are written. -/
def fieldsOf (tables : Tables) (rupture : RecordId) : List FieldRow :=
  tables.fields.filter (fun field =>
    tables.events.any (fun event => event.id == field.event && event.rupture == rupture))

structure Sound (tables : Tables) : Prop where
  ruptures : (tables.ruptures.map RuptureRow.id).Nodup
  events : (tables.events.map EventRow.id).Nodup
  placed : ∀ event ∈ tables.events, ∃ sites?, tables.Lists event.rupture sites?
  valid : ∀ row ∈ tables.ruptures, ∀ sites, row.sites? = some sites →
    GroundMotion.checkSites sites = .ok ()
  fits : ∀ field ∈ tables.fields, tables.Fits field

/-- What no change undoes: rows stay, and so do the sites of a rupture that has a field. -/
structure Kept (before after : Tables) : Prop where
  listed : ∀ rupture sites?, before.Lists rupture sites? → ∃ later?, after.Lists rupture later?
  fixed : ∀ rupture sites?, before.Covered rupture → before.Lists rupture sites? →
    after.Lists rupture sites?
  events : ∀ event ∈ before.events, event ∈ after.events
  fields : ∀ field ∈ before.fields, field ∈ after.fields

def empty : Tables :=
  ⟨[], [], []⟩

theorem empty_sound : empty.Sound where
  ruptures := List.nodup_nil
  events := List.nodup_nil
  placed := by intro event there; cases there
  valid := by intro row there; cases there
  fits := by intro field there; cases there

variable {tables before after later : Tables} {rupture : RecordId}

theorem nodup_append_fresh {α : Type} {key : α → RecordId} {rows : List α} {row : α}
    (distinct : (rows.map key).Nodup) (fresh : ∀ other ∈ rows, key other ≠ key row) :
    ((rows ++ [row]).map key).Nodup := by
  rw [List.map_append, List.map_singleton]
  refine List.nodup_append.2 ⟨distinct, List.nodup_singleton _, ?_⟩
  intro id member other last
  obtain ⟨earlier, there, same⟩ := List.mem_map.1 member
  rw [List.mem_singleton.1 last, ← same]
  exact fresh earlier there

theorem Sound.lists_unique (sound : tables.Sound) {one two : Option (List SiteId)}
    (left : tables.Lists rupture one) (right : tables.Lists rupture two) : one = two := by
  obtain ⟨row, there, id, sites⟩ := left
  obtain ⟨other, otherThere, otherId, otherSites⟩ := right
  have same := List.inj_on_of_nodup_map sound.ruptures there otherThere (id.trans otherId.symm)
  rw [← sites, ← otherSites, same]

theorem Sound.event_unique (sound : tables.Sound) {one two : EventRow} (left : one ∈ tables.events)
    (right : two ∈ tables.events) (same : one.id = two.id) : one = two :=
  List.inj_on_of_nodup_map sound.events left right same

theorem Sound.ruptureOf (sound : tables.Sound) {field : FieldRow} (there : field ∈ tables.fields) :
    (∃ row, tables.RuptureOf field row) ∧
      ∀ row, tables.RuptureOf field row →
        GroundMotion.checkField row.sites? field.values = .ok () := by
  obtain ⟨event, eventThere, id, sites?, lists, accepted⟩ := sound.fits field there
  constructor
  · obtain ⟨row, rowThere, rowId, _⟩ := lists
    exact ⟨row, rowThere, event, eventThere, id, rowId.symm⟩
  · intro row owner
    obtain ⟨rowThere, owner, ownerThere, ownerId, same⟩ := owner
    have unique := sound.event_unique ownerThere eventThere (ownerId.trans id.symm)
    rw [unique] at same
    rw [sound.lists_unique ⟨row, rowThere, same.symm, rfl⟩ lists]
    exact accepted

theorem not_covered_of_fieldsOf (nothing : tables.fieldsOf rupture = []) :
    ¬tables.Covered rupture := by
  intro covered
  obtain ⟨field, there, event, eventThere, id, owner⟩ := covered
  have counted : field ∈ tables.fieldsOf rupture := by
    apply List.mem_filter.2
    refine ⟨there, List.any_eq_true.2 ⟨event, eventThere, ?_⟩⟩
    rw [Bool.and_eq_true, beq_iff_eq, beq_iff_eq]
    exact ⟨id, owner⟩
  rw [nothing] at counted
  cases counted

theorem Kept.refl (tables : Tables) : tables.Kept tables where
  listed _ sites? lists := ⟨sites?, lists⟩
  fixed _ _ _ lists := lists
  events _ there := there
  fields _ there := there

theorem Kept.covered (kept : before.Kept after) (covered : before.Covered rupture) :
    after.Covered rupture := by
  obtain ⟨field, there, event, eventThere, id, owner⟩ := covered
  exact ⟨field, kept.fields field there, event, kept.events event eventThere, id, owner⟩

theorem Kept.trans (first : before.Kept after) (second : after.Kept later) : before.Kept later where
  listed rupture sites? lists := by
    obtain ⟨middle, listed⟩ := first.listed rupture sites? lists
    exact second.listed rupture middle listed
  fixed rupture sites? covered lists :=
    second.fixed rupture sites? (first.covered covered) (first.fixed rupture sites? covered lists)
  events event there := second.events event (first.events event there)
  fields field there := second.fields field (first.fields field there)

end Tables

namespace Change

open Tables

def Admissible (tables : Tables) : Change → Prop
  | .addRupture row => (∀ other ∈ tables.ruptures, other.id ≠ row.id) ∧
      ∀ sites, row.sites? = some sites → GroundMotion.checkSites sites = .ok ()
  | .addEvent row => (∀ other ∈ tables.events, other.id ≠ row.id) ∧
      ∃ sites?, tables.Lists row.rupture sites?
  | .addField row => tables.Fits row
  | .assignSites rupture sites =>
      ¬tables.Covered rupture ∧ GroundMotion.checkSites sites = .ok ()

def Reassigns (rupture : RecordId) (change : Change) : Prop :=
  ∃ sites, change = .assignSites rupture sites

def Covers (tables : Tables) (rupture : RecordId) (change : Change) : Prop :=
  ∃ row, change = .addField row ∧
    ∃ event ∈ tables.events, event.id = row.event ∧ event.rupture = rupture

variable {tables : Tables} {change : Change} {rupture : RecordId} {sites? : Option (List SiteId)}

theorem lists_apply (lists : tables.Lists rupture sites?) (keeps : ¬change.Reassigns rupture) :
    (change.apply tables).Lists rupture sites? := by
  obtain ⟨row, there, id, sites⟩ := lists
  cases change with
  | addRupture added => exact ⟨row, List.mem_append_left _ there, id, sites⟩
  | addEvent added => exact ⟨row, there, id, sites⟩
  | addField added => exact ⟨row, there, id, sites⟩
  | assignSites assigned written =>
      have apart : row.id ≠ assigned := by
        intro same
        exact keeps ⟨written, by rw [← id, same]⟩
      refine ⟨row, ?_, id, sites⟩
      have unchanged := List.mem_map_of_mem (f := RuptureRow.assign assigned written) there
      rw [RuptureRow.assign_of_ne written apart] at unchanged
      exact unchanged

theorem listed_apply (lists : tables.Lists rupture sites?) :
    ∃ later?, (change.apply tables).Lists rupture later? := by
  by_cases reassigns : change.Reassigns rupture
  · obtain ⟨written, same⟩ := reassigns
    obtain ⟨row, there, id, _⟩ := lists
    subst same
    refine ⟨_, row.assign rupture written, List.mem_map_of_mem there, ?_, rfl⟩
    rw [RuptureRow.assign_id, id]
  · exact ⟨sites?, lists_apply lists reassigns⟩

theorem events_apply {event : EventRow} (there : event ∈ tables.events) :
    event ∈ (change.apply tables).events := by
  cases change with
  | addEvent added => exact List.mem_append_left _ there
  | addRupture added => exact there
  | addField added => exact there
  | assignSites assigned written => exact there

theorem fields_apply {field : FieldRow} (there : field ∈ tables.fields) :
    field ∈ (change.apply tables).fields := by
  cases change with
  | addField added => exact List.mem_append_left _ there
  | addRupture added => exact there
  | addEvent added => exact there
  | assignSites assigned written => exact there

/-- Only storing a field of it makes a rupture covered. -/
theorem covered_of_apply (sound : tables.Sound) (admissible : change.Admissible tables)
    (covered : (change.apply tables).Covered rupture) :
    tables.Covered rupture ∨ change.Covers tables rupture := by
  obtain ⟨field, there, event, eventThere, id, owner⟩ := covered
  cases change with
  | addRupture added => exact Or.inl ⟨field, there, event, eventThere, id, owner⟩
  | assignSites assigned written => exact Or.inl ⟨field, there, event, eventThere, id, owner⟩
  | addEvent added =>
      obtain ⟨known, knownThere, knownId, _⟩ := sound.fits field there
      rcases List.mem_append.1 eventThere with old | new
      · exact Or.inl ⟨field, there, event, old, id, owner⟩
      · rw [List.mem_singleton.1 new] at id
        exact absurd (knownId.trans id.symm) (admissible.1 known knownThere)
  | addField added =>
      rcases List.mem_append.1 there with old | new
      · exact Or.inl ⟨field, old, event, eventThere, id, owner⟩
      · rw [List.mem_singleton.1 new] at id
        exact Or.inr ⟨added, rfl, event, eventThere, id, owner⟩

theorem not_reassigns_of_covered (admissible : change.Admissible tables)
    (covered : tables.Covered rupture) : ¬change.Reassigns rupture := by
  intro reassigns
  obtain ⟨written, same⟩ := reassigns
  subst same
  exact admissible.1 covered

theorem kept_apply (admissible : change.Admissible tables) : tables.Kept (change.apply tables) where
  listed _ _ lists := listed_apply lists
  fixed _ _ covered lists := lists_apply lists (not_reassigns_of_covered admissible covered)
  events _ there := events_apply there
  fields _ there := fields_apply there

theorem fits_apply (admissible : change.Admissible tables) {field : FieldRow}
    (there : field ∈ tables.fields) (fits : tables.Fits field) :
    (change.apply tables).Fits field := by
  obtain ⟨event, eventThere, id, sites?, lists, accepted⟩ := fits
  have covered : tables.Covered event.rupture := ⟨field, there, event, eventThere, id, rfl⟩
  exact ⟨event, events_apply eventThere, id, sites?,
    lists_apply lists (not_reassigns_of_covered admissible covered), accepted⟩

theorem sound_apply (sound : tables.Sound) (admissible : change.Admissible tables) :
    (change.apply tables).Sound where
  ruptures := by
    cases change with
    | addRupture added => exact nodup_append_fresh sound.ruptures admissible.1
    | addEvent added => exact sound.ruptures
    | addField added => exact sound.ruptures
    | assignSites assigned written =>
        have same : (tables.ruptures.map (RuptureRow.assign assigned written)).map RuptureRow.id =
            tables.ruptures.map RuptureRow.id := by
          rw [List.map_map]
          exact List.map_congr_left (fun row _ => RuptureRow.assign_id assigned written row)
        simp only [apply, same]
        exact sound.ruptures
  events := by
    cases change with
    | addEvent added => exact nodup_append_fresh sound.events admissible.1
    | addRupture added => exact sound.events
    | addField added => exact sound.events
    | assignSites assigned written => exact sound.events
  placed := by
    intro event there
    have before : ∃ sites?, tables.Lists event.rupture sites? := by
      cases change with
      | addEvent added =>
          rcases List.mem_append.1 there with old | new
          · exact sound.placed event old
          · rw [List.mem_singleton.1 new]
            exact admissible.2
      | addRupture added => exact sound.placed event there
      | addField added => exact sound.placed event there
      | assignSites assigned written => exact sound.placed event there
    obtain ⟨sites?, lists⟩ := before
    exact listed_apply lists
  valid := by
    intro row there sites listed
    cases change with
    | addRupture added =>
        rcases List.mem_append.1 there with old | new
        · exact sound.valid row old sites listed
        · rw [List.mem_singleton.1 new] at listed
          exact admissible.2 sites listed
    | addEvent added => exact sound.valid row there sites listed
    | addField added => exact sound.valid row there sites listed
    | assignSites assigned written =>
        obtain ⟨old, oldThere, same⟩ := List.mem_map.1 there
        subst same
        rcases old.assign_sites? assigned written with changed | unchanged
        · rw [changed] at listed
          cases listed
          exact admissible.2
        · rw [unchanged] at listed
          exact sound.valid old oldThere sites listed
  fits := by
    intro field there
    cases change with
    | addField added =>
        rcases List.mem_append.1 there with old | new
        · exact sound.fits field old
        · rw [List.mem_singleton.1 new]
          exact admissible
    | addRupture added => exact fits_apply admissible there (sound.fits field there)
    | addEvent added => exact fits_apply admissible there (sound.fits field there)
    | assignSites assigned written => exact fits_apply admissible there (sound.fits field there)

end Change

end HazardStore
