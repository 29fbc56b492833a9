import HazardStore.GroundMotion.Alignment
import HazardStore.Proofs.GroundMotion.Field
import Mathlib.Data.List.Forall2
import Mathlib.Data.List.Sort
/-!
What an alignment of values is. The ruptures that any site has a value for stand in strictly
ascending order, each once. Every site keeps its place and has one number for each rupture: the last
value that the site has for it, and zero where it has none. Given values have exactly one alignment,
and `align` computes it.
-/

namespace HazardStore.GroundMotion

variable {rupture other : RecordId} {ruptures : List RecordId} {values : SiteValues}
  {value number : Double}

theorem mem_insertAscending :
    other ∈ insertAscending rupture ruptures ↔ other = rupture ∨ other ∈ ruptures := by
  induction ruptures with
  | nil => exact List.mem_cons
  | cons head tail ih =>
      unfold insertAscending
      split
      · exact List.mem_cons
      · split
        · rename_i same
          rw [same, List.mem_cons, or_self_left]
        · rw [List.mem_cons, ih, List.mem_cons, or_left_comm]

theorem insertAscending_pairwise (ascends : ruptures.Pairwise (· < ·)) :
    (insertAscending rupture ruptures).Pairwise (· < ·) := by
  induction ruptures with
  | nil => exact List.pairwise_singleton _ _
  | cons head tail ih =>
      obtain ⟨above, rest⟩ := List.pairwise_cons.1 ascends
      unfold insertAscending
      split
      · rename_i before
        refine List.pairwise_cons.2 ⟨?_, ascends⟩
        intro later member
        rcases List.mem_cons.1 member with first | there
        · rw [first]
          exact before
        · exact Int64.lt_trans before (above later there)
      · rename_i notBefore
        split
        · exact ascends
        · rename_i apart
          refine List.pairwise_cons.2 ⟨?_, ih rest⟩
          intro later member
          rcases mem_insertAscending.1 member with new | there
          · rw [new]
            exact Int64.lt_of_le_of_ne (Int64.not_lt.1 notBefore) (Ne.symm apart)
          · exact above later there

theorem mem_ascending : other ∈ ascending ruptures ↔ other ∈ ruptures := by
  induction ruptures with
  | nil => rfl
  | cons head tail ih =>
      change other ∈ insertAscending head (ascending tail) ↔ _
      rw [mem_insertAscending, ih, List.mem_cons]

theorem ascending_pairwise (ruptures : List RecordId) :
    (ascending ruptures).Pairwise (· < ·) := by
  induction ruptures with
  | nil => exact List.Pairwise.nil
  | cons head tail ih => exact insertAscending_pairwise ih

/-- The value stands in the last pair of the rupture. -/
def IsLast (values : SiteValues) (rupture : RecordId) (value : Double) : Prop :=
  ∃ before after, values = before ++ (rupture, value) :: after ∧
    ∀ pair ∈ after, pair.1 ≠ rupture

theorem lastValue?_eq_some_iff :
    lastValue? values rupture = some value ↔ IsLast values rupture value := by
  unfold lastValue? IsLast
  rw [List.lookup_eq_some_iff]
  constructor
  · intro found
    obtain ⟨later, earlier, same, apart⟩ := found
    refine ⟨earlier.reverse, later.reverse, ?_, ?_⟩
    · rw [← values.reverse_reverse, same, List.reverse_append, List.reverse_cons,
        List.append_assoc, List.singleton_append]
    · intro pair member
      exact (bne_iff_ne.1 (apart pair (List.mem_reverse.1 member))).symm
  · intro last
    obtain ⟨before, after, same, apart⟩ := last
    refine ⟨after.reverse, before.reverse, ?_, ?_⟩
    · rw [same, List.reverse_append, List.reverse_cons, List.append_assoc, List.singleton_append]
    · intro pair member
      exact bne_iff_ne.2 (apart pair (List.mem_reverse.1 member)).symm

theorem lastValue?_eq_none_iff :
    lastValue? values rupture = none ↔ ∀ pair ∈ values, pair.1 ≠ rupture := by
  unfold lastValue?
  rw [List.lookup_eq_none_iff]
  constructor
  · intro apart pair member
    exact (bne_iff_ne.1 (apart pair (List.mem_reverse.2 member))).symm
  · intro apart pair member
    exact bne_iff_ne.2 (apart pair (List.mem_reverse.1 member)).symm

theorem mem_of_lastValue? (last : lastValue? values rupture = some value) :
    (rupture, value) ∈ values := by
  obtain ⟨before, after, same, _⟩ := lastValue?_eq_some_iff.1 last
  rw [same]
  exact List.mem_append_right _ (List.mem_cons_self ..)

inductive Stands (values : SiteValues) (rupture : RecordId) : Double → Prop where
  | last (value : Double) (isLast : IsLast values rupture value) : Stands values rupture value
  | filler (without : ∀ pair ∈ values, pair.1 ≠ rupture) : Stands values rupture .zero

theorem stands_iff :
    Stands values rupture number ↔ number = (lastValue? values rupture).getD .zero := by
  constructor
  · intro stands
    cases stands with
    | last value isLast => rw [lastValue?_eq_some_iff.2 isLast, Option.getD_some]
    | filler without => rw [lastValue?_eq_none_iff.2 without, Option.getD_none]
  · intro same
    subst same
    cases found : lastValue? values rupture with
    | some value => exact .last value (lastValue?_eq_some_iff.1 found)
    | none => exact .filler (lastValue?_eq_none_iff.1 found)

theorem stands_rightUnique (values : SiteValues) : Relator.RightUnique (Stands values) := by
  intro rupture left right leftStands rightStands
  rw [stands_iff.1 leftStands, stands_iff.1 rightStands]

/-- The alignment of the values of sites, said without the way in which it is computed. -/
structure Aligns (perSite : List (SiteId × SiteValues)) (aligned : AlignedField) : Prop where
  ascending : aligned.ruptures.Pairwise (· < ·)
  complete : ∀ rupture, rupture ∈ aligned.ruptures ↔
    ∃ entry ∈ perSite, ∃ value, (rupture, value) ∈ entry.2
  rows : List.Forall₂ (fun entry row =>
    row.1 = entry.1 ∧ List.Forall₂ (Stands entry.2) aligned.ruptures row.2) perSite aligned.rows

namespace Aligns

variable {perSite : List (SiteId × SiteValues)} {aligned another : AlignedField}

theorem sites (aligns : Aligns perSite aligned) :
    aligned.rows.map Prod.fst = perSite.map Prod.fst := by
  have same : List.Forall₂ Eq (perSite.map Prod.fst) (aligned.rows.map Prod.fst) := by
    rw [List.forall₂_map_left_iff, List.forall₂_map_right_iff]
    exact aligns.rows.imp (fun entry row here => here.1.symm)
  rw [List.forall₂_eq_eq_eq] at same
  exact same.symm

theorem width (aligns : Aligns perSite aligned) (row : SiteId × List Double)
    (member : row ∈ aligned.rows) : row.2.length = aligned.ruptures.length := by
  obtain ⟨index, within, same⟩ := List.getElem_of_mem member
  have here := aligns.rows.get (aligns.rows.length_eq ▸ within) within
  rw [List.get_eq_getElem, List.get_eq_getElem, same] at here
  exact here.2.length_eq.symm

theorem align (perSite : List (SiteId × SiteValues)) : Aligns perSite (align perSite) where
  ascending := ascending_pairwise _
  complete := by
    intro rupture
    change rupture ∈ GroundMotion.ascending _ ↔ _
    simp only [mem_ascending, List.mem_flatMap, List.mem_map, Prod.exists, exists_and_right,
      exists_eq_right]
  rows := by
    change List.Forall₂ _ perSite (perSite.map _)
    rw [List.forall₂_map_right_iff, List.forall₂_same]
    intro entry _
    refine ⟨rfl, ?_⟩
    change List.Forall₂ _ (GroundMotion.align perSite).ruptures
      ((GroundMotion.align perSite).ruptures.map _)
    rw [List.forall₂_map_right_iff, List.forall₂_same]
    intro rupture _
    exact stands_iff.2 rfl

theorem unique (one : Aligns perSite aligned) (two : Aligns perSite another) :
    aligned = another := by
  -- both are in strictly ascending order, so their members tell them
  have ruptures : aligned.ruptures = another.ruptures :=
    one.ascending.eq_of_mem_iff two.ascending
      (fun rupture => (one.complete rupture).trans (two.complete rupture).symm)
  have rows : aligned.rows = another.rows := by
    have right := two.rows
    rw [← ruptures] at right
    refine Relator.RightUnique.forall₂ ?_ one.rows right
    intro entry left right leftRow rightRow
    exact Prod.ext (leftRow.1.trans rightRow.1.symm)
      ((stands_rightUnique entry.2).forall₂ leftRow.2 rightRow.2)
  obtain ⟨leftRuptures, leftRows⟩ := aligned
  obtain ⟨rightRuptures, rightRows⟩ := another
  cases ruptures
  cases rows
  rfl

end Aligns

/-- In whatever order the values of sites name ruptures, and however often they name a rupture or a
site, what is computed is their one alignment. -/
theorem align_exact (perSite : List (SiteId × SiteValues)) :
    Aligns perSite (align perSite) ∧
      (align perSite).rows.map Prod.fst = perSite.map Prod.fst ∧
      (∀ row ∈ (align perSite).rows, row.2.length = (align perSite).ruptures.length) ∧
      ∀ aligned, Aligns perSite aligned → aligned = align perSite := by
  have aligns := Aligns.align perSite
  exact ⟨aligns, aligns.sites, aligns.width, fun aligned other => other.unique aligns⟩

theorem align_exact_repeated :
    Aligns [(7, [(30, weak 1), (10, weak 2), (30, weak 3)]), (4, []), (7, [(20, weak 1)])]
      ⟨[10, 20, 30], [(7, [weak 2, .zero, weak 3]), (4, [.zero, .zero, .zero]),
        (7, [.zero, weak 1, .zero])]⟩ :=
  (align_exact [(7, [(30, weak 1), (10, weak 2), (30, weak 3)]), (4, []), (7, [(20, weak 1)])]).1

end HazardStore.GroundMotion
