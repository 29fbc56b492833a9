import HazardStore.Proofs.Rupture.Growth
import HazardStore.Proofs.Rupture.Selection
/-!
The values of a site in the order in which they are given. Every field of the container and measure
that has a value for the site gives it, event rupture after event rupture; an event rupture is named
once for each such field.
-/

namespace HazardStore

namespace FieldRow

variable {left middle right : FieldRow}

theorem Precedes.event_le (precedes : left.Precedes right) : left.event ≤ right.event := by
  rcases precedes with before | ⟨same, _⟩
  · exact Int64.le_of_lt before
  · rw [same]
    exact Int64.le_refl _

theorem Precedes.total (left right : FieldRow) : left.Precedes right ∨ right.Precedes left := by
  rcases Int64.le_total left.event right.event with below | above
  · rcases Int64.lt_or_eq_of_le below with before | same
    · exact Or.inl (Or.inl before)
    · rcases Int64.le_total left.id right.id with first | last
      · exact Or.inl (Or.inr ⟨same, first⟩)
      · exact Or.inr (Or.inr ⟨same.symm, last⟩)
  · rcases Int64.lt_or_eq_of_le above with before | same
    · exact Or.inr (Or.inl before)
    · rcases Int64.le_total left.id right.id with first | last
      · exact Or.inl (Or.inr ⟨same.symm, first⟩)
      · exact Or.inr (Or.inr ⟨same, last⟩)

theorem Precedes.trans (first : left.Precedes middle) (second : middle.Precedes right) :
    left.Precedes right := by
  rcases first with before | ⟨same, earlier⟩
  · exact Or.inl (Int64.lt_of_lt_of_le before second.event_le)
  · rcases second with before | ⟨alike, later⟩
    · rw [← same] at before
      exact Or.inl before
    · exact Or.inr ⟨same.trans alike, Int64.le_trans earlier later⟩

def place (field : FieldRow) : RecordId × RecordId × RecordId :=
  (field.event, field.container, field.measure)

instance : Std.Total FieldRow.Precedes :=
  ⟨Precedes.total⟩

instance : IsTrans FieldRow FieldRow.Precedes :=
  ⟨fun _ _ _ => Precedes.trans⟩

end FieldRow

theorem length_filter_key_le {α : Type} {rows : List α} {key : α → RecordId}
    (distinct : (rows.map key).Nodup) (id : RecordId) :
    (rows.filter (fun row => key row == id)).length ≤ 1 := by
  have alike : (rows.filter (fun row => key row == id)).map key =
      List.replicate (rows.filter (fun row => key row == id)).length id := by
    rw [List.map_eq_replicate_iff]
    intro row member
    exact beq_iff_eq.1 (List.mem_filter.1 member).2
  have apart : ((rows.filter (fun row => key row == id)).map key).Nodup :=
    distinct.sublist (List.filter_sublist.map key)
  rw [alike, List.nodup_replicate] at apart
  exact apart

namespace Tables

variable {tables : Tables} {container measure : RecordId}

def valueOf? (tables : Tables) (site : SiteId) (field : FieldRow) : Option Double :=
  (tables.rupturesOf field.event).head?.bind (fun rupture =>
    GroundMotion.valueAt? rupture.sites? field.values site)

def entryOf? (tables : Tables) (site : SiteId) (field : FieldRow) : Option (RecordId × Double) :=
  (tables.valueOf? site field).map (fun value => (field.event, value))

/-- The fields of a container and a measure that have a value for a site. -/
def affecting (tables : Tables) (container measure : RecordId) (site : SiteId) : List FieldRow :=
  (tables.fieldsOfMeasure container measure).filter (fun field =>
    (tables.valueOf? site field).isSome)

/-- No two ruptures and no two event ruptures have one identity. -/
structure Keyed (tables : Tables) : Prop where
  ruptures : (tables.ruptures.map RuptureRow.id).Nodup
  events : (tables.events.map EventRow.id).Nodup

theorem fieldsOfMeasure_perm (tables : Tables) (container measure : RecordId) :
    (tables.fieldsOfMeasure container measure).Perm (tables.fields.filter (fun field =>
      field.container == container && field.measure == measure)) :=
  List.perm_insertionSort _ _

theorem Keyed.rupturesOf_length_le (keyed : tables.Keyed) (event : RecordId) :
    (tables.rupturesOf event).length ≤ 1 := by
  have events := length_filter_key_le keyed.events event
  unfold rupturesOf
  cases found : tables.events.filter (fun row => row.id == event) with
  | nil => exact Nat.zero_le 1
  | cons row others =>
      rw [found, List.length_cons] at events
      have none : others = [] := List.eq_nil_of_length_eq_zero (by omega)
      rw [none, List.flatMap_singleton]
      exact length_filter_key_le keyed.ruptures row.rupture

theorem Keyed.valuesAtSite_eq (keyed : tables.Keyed) (container measure : RecordId)
    (site : SiteId) : tables.valuesAtSite container measure site =
      (tables.fieldsOfMeasure container measure).filterMap (tables.entryOf? site) := by
  unfold valuesAtSite fieldsAtSite
  rw [List.filterMap_flatMap, List.filterMap_eq_flatMap_toList]
  apply List.flatMap_congr
  intro field _
  have kept := Fields.filterMap_selected site ((tables.rupturesOf field.event).map
    (fun rupture => ⟨field.event, field.values, rupture.sites?⟩))
  rw [Fields.selected_eq, List.filter_map] at kept
  refine kept.trans ?_
  unfold entryOf? valueOf?
  have few := keyed.rupturesOf_length_le field.event
  cases found : tables.rupturesOf field.event with
  | nil => rfl
  | cons rupture others =>
      rw [found, List.length_cons] at few
      have none : others = [] := List.eq_nil_of_length_eq_zero (by omega)
      rw [none, List.map_singleton, List.head?_cons, Option.bind_some]
      cases given : GroundMotion.valueAt? rupture.sites? field.values site with
      | none => simp [Fields.FieldAtSite.valueAt?, given]
      | some value => simp [Fields.FieldAtSite.valueAt?, given]

theorem map_fst_entries (tables : Tables) (site : SiteId) (fields : List FieldRow) :
    (fields.filterMap (tables.entryOf? site)).map Prod.fst =
      (fields.filter (fun field => (tables.valueOf? site field).isSome)).map FieldRow.event := by
  induction fields with
  | nil => rfl
  | cons field others ih =>
      rw [List.filterMap_cons, List.filter_cons]
      cases given : tables.valueOf? site field with
      | none => simp [entryOf?, given, ih]
      | some value => simp [entryOf?, given, ih]

/-- The event ruptures that are named are those of the fields that have a value. -/
theorem Keyed.events_eq (keyed : tables.Keyed) (container measure : RecordId) (site : SiteId) :
    (tables.valuesAtSite container measure site).map Prod.fst =
      (tables.affecting container measure site).map FieldRow.event := by
  rw [keyed.valuesAtSite_eq, map_fst_entries, affecting]

theorem Keyed.valuesAtSite_perm (keyed : tables.Keyed) (container measure : RecordId)
    (site : SiteId) : (tables.valuesAtSite container measure site).Perm
      ((tables.fields.filter (fun field =>
        field.container == container && field.measure == measure)).filterMap
          (tables.entryOf? site)) := by
  rw [keyed.valuesAtSite_eq]
  exact (fieldsOfMeasure_perm ..).filterMap _

theorem Keyed.events_ascending (keyed : tables.Keyed) (container measure : RecordId)
    (site : SiteId) :
    ((tables.valuesAtSite container measure site).map Prod.fst).Pairwise (· ≤ ·) := by
  rw [keyed.events_eq, List.pairwise_map]
  have ordered : (tables.fieldsOfMeasure container measure).Pairwise FieldRow.Precedes :=
    List.pairwise_insertionSort _ _
  exact (ordered.sublist List.filter_sublist).imp FieldRow.Precedes.event_le

/-- No event rupture is named twice exactly when no two fields that have a value share it. -/
theorem Keyed.events_strict_iff (keyed : tables.Keyed) (container measure : RecordId)
    (site : SiteId) :
    ((tables.valuesAtSite container measure site).map Prod.fst).Pairwise (· < ·) ↔
      ((tables.affecting container measure site).map FieldRow.event).Nodup := by
  rw [← keyed.events_eq]
  constructor
  · intro strict
    apply List.nodup_iff_pairwise_ne.2 (strict.imp ?_)
    intro one two before same
    rw [same] at before
    exact Int64.lt_irrefl before
  · intro distinct
    exact ((keyed.events_ascending container measure site).and distinct).imp
      (fun both => Int64.lt_of_le_of_ne both.1 both.2)

theorem affecting_distinct (distinct : (tables.fields.map FieldRow.place).Nodup)
    (container measure : RecordId) (site : SiteId) :
    ((tables.affecting container measure site).map FieldRow.event).Nodup := by
  have chosen : ((tables.fieldsOfMeasure container measure).map FieldRow.place).Nodup :=
    ((fieldsOfMeasure_perm ..).map _).nodup_iff.2 (distinct.sublist (List.filter_sublist.map _))
  have apart : (tables.affecting container measure site).Pairwise
      (fun one two => one.place ≠ two.place) :=
    List.pairwise_map.1 (chosen.sublist (List.filter_sublist.map _))
  apply List.pairwise_map.2
  apply apart.imp_of_mem
  intro one two oneThere twoThere different same
  obtain ⟨_, oneContainer, oneMeasure⟩ := mem_fieldsOfMeasure.1 (List.mem_of_mem_filter oneThere)
  obtain ⟨_, twoContainer, twoMeasure⟩ := mem_fieldsOfMeasure.1 (List.mem_of_mem_filter twoThere)
  apply different
  rw [FieldRow.place, FieldRow.place, same, oneContainer, twoContainer, oneMeasure, twoMeasure]

end Tables

end HazardStore
