import HazardStore.Proofs.GroundMotion.Field
import HazardStore.Session.Script
import HazardStore.Store.Ruptures
import Mathlib.Data.Finset.Card
/-!
Why sites and fields are rejected. Several reasons can hold at once; which of them is reported is
fixed, and each comes with the value, the site or the lengths that it is about. Sites that the store
took in are never the reason: a field that does not go with them is empty, has a value that is not
finite, or has another length.
-/

namespace HazardStore.GroundMotion

/-- The first negative site, or else two places of one site. -/
inductive SitesFault : List SiteId → Violation → Prop where
  | negative (before after : List SiteId) (site : SiteId) (nonnegative : ∀ site ∈ before, 0 ≤ site)
      (below : site < 0) : SitesFault (before ++ site :: after) (.negativeSite site)
  | repeated (sites : List SiteId) (earlier later : Nat) (site : SiteId)
      (nonnegative : ∀ site ∈ sites, 0 ≤ site) (order : earlier < later)
      (first : sites[earlier]? = some site) (second : sites[later]? = some site) :
      SitesFault sites .repeatedSites

/-- No value, or else the first value that is not finite, or else another number of sites than of
values, or else a fault of the sites. -/
inductive FieldFault : Option (List SiteId) → List Double → Violation → Prop where
  | empty (sites? : Option (List SiteId)) : FieldFault sites? [] .emptyField
  | notFinite (sites? : Option (List SiteId)) (before after : List Double) (value : Double)
      (finite : ∀ value ∈ before, value.isFinite = true) (bad : value.isFinite = false) :
      FieldFault sites? (before ++ value :: after) (.valueNotFinite value)
  | length (sites : List SiteId) (field : List Double) (nonempty : field ≠ [])
      (finite : ∀ value ∈ field, value.isFinite = true) (differ : sites.length ≠ field.length) :
      FieldFault (some sites) field (.lengthMismatch field.length sites.length)
  | sites (sites : List SiteId) (field : List Double) (violation : Violation)
      (nonempty : field ≠ []) (finite : ∀ value ∈ field, value.isFinite = true)
      (same : sites.length = field.length) (fault : SitesFault sites violation) :
      FieldFault (some sites) field violation

theorem not_nodup_iff {sites : List SiteId} : ¬sites.Nodup ↔
    ∃ (earlier later : Nat) (site : SiteId), earlier < later ∧ sites[earlier]? = some site ∧
      sites[later]? = some site := by
  rw [List.nodup_iff_getElem?_ne_getElem?]
  constructor
  · intro repeated
    simp only [not_forall, not_not] at repeated
    obtain ⟨earlier, later, order, within, same⟩ := repeated
    have there := List.getElem?_eq_getElem within
    exact ⟨earlier, later, sites[later], order, same.trans there, there⟩
  · intro places distinct
    obtain ⟨earlier, later, site, order, first, second⟩ := places
    have within := (List.getElem?_eq_some_iff.1 second).1
    exact distinct earlier later order within (first.trans second.symm)

theorem find?_negative_iff {sites : List SiteId} {negative : SiteId} :
    sites.find? (fun site => decide (site < 0)) = some negative ↔
      ∃ before after, sites = before ++ negative :: after ∧ negative < 0 ∧
        ∀ site ∈ before, 0 ≤ site := by
  rw [List.find?_eq_some_iff_append, decide_eq_true_iff]
  simp only [Bool.not_eq_true', decide_eq_false_iff_not, Int32.not_lt]
  constructor
  · intro found
    obtain ⟨below, before, after, split, nonnegative⟩ := found
    exact ⟨before, after, split, below, nonnegative⟩
  · intro found
    obtain ⟨before, after, split, below, nonnegative⟩ := found
    exact ⟨below, before, after, split, nonnegative⟩

theorem find?_negative_none_iff {sites : List SiteId} :
    sites.find? (fun site => decide (site < 0)) = none ↔ ∀ site ∈ sites, 0 ≤ site := by
  simp only [List.find?_eq_none, decide_eq_true_iff, Int32.not_lt]

theorem checkSites_eq_error_iff {sites : List SiteId} {violation : Violation} :
    checkSites sites = .error violation ↔ SitesFault sites violation := by
  unfold checkSites
  constructor
  · intro rejected
    split at rejected
    · rename_i negative found
      cases rejected
      obtain ⟨before, after, split, below, nonnegative⟩ := find?_negative_iff.1 found
      rw [split]
      exact .negative before after negative nonnegative below
    · rename_i passed
      split at rejected
      · cases rejected
      · rename_i repeats
        cases rejected
        obtain ⟨earlier, later, site, order, first, second⟩ := not_nodup_iff.1 repeats
        exact .repeated sites earlier later site (find?_negative_none_iff.1 passed) order first
          second
  · intro fault
    cases fault with
    | negative before after site nonnegative below =>
        rw [find?_negative_iff.2 ⟨before, after, rfl, below, nonnegative⟩]
    | repeated _ earlier later site nonnegative order first second =>
        rw [find?_negative_none_iff.2 nonnegative]
        exact if_neg (not_nodup_iff.2 ⟨earlier, later, site, order, first, second⟩)

theorem checkSites_eq_repeated_iff {sites : List SiteId} :
    checkSites sites = .error .repeatedSites ↔
      (∀ site ∈ sites, 0 ≤ site) ∧ sites.toFinset.card ≠ sites.length := by
  have distinct : sites.toFinset.card = sites.length ↔ sites.Nodup :=
    Multiset.toFinset_card_eq_card_iff_nodup
  rw [checkSites_eq_error_iff, Ne, distinct, not_nodup_iff]
  constructor
  · intro fault
    cases fault with
    | repeated _ earlier later site nonnegative order first second =>
        exact ⟨nonnegative, earlier, later, site, order, first, second⟩
  · intro repeats
    obtain ⟨nonnegative, earlier, later, site, order, first, second⟩ := repeats
    exact .repeated sites earlier later site nonnegative order first second

theorem find?_notFinite_iff {field : List Double} {bad : Double} :
    field.find? (fun value => !value.isFinite) = some bad ↔
      ∃ before after, field = before ++ bad :: after ∧ bad.isFinite = false ∧
        ∀ value ∈ before, value.isFinite = true := by
  rw [List.find?_eq_some_iff_append, Bool.not_eq_true']
  simp only [Bool.not_not]
  constructor
  · intro found
    obtain ⟨infinite, before, after, split, finite⟩ := found
    exact ⟨before, after, split, infinite, finite⟩
  · intro found
    obtain ⟨before, after, split, infinite, finite⟩ := found
    exact ⟨infinite, before, after, split, finite⟩

theorem find?_notFinite_none_iff {field : List Double} :
    field.find? (fun value => !value.isFinite) = none ↔
      ∀ value ∈ field, value.isFinite = true := by
  simp only [List.find?_eq_none, Bool.not_eq_true', Bool.not_eq_false]

theorem checkField_eq_error_iff {sites? : Option (List SiteId)} {field : List Double}
    {violation : Violation} :
    checkField sites? field = .error violation ↔ FieldFault sites? field violation := by
  unfold checkField
  constructor
  · intro rejected
    split at rejected
    · rename_i empty
      cases rejected
      rw [empty]
      exact .empty sites?
    · rename_i nonempty
      split at rejected
      · rename_i bad found
        cases rejected
        obtain ⟨before, after, split, infinite, finite⟩ := find?_notFinite_iff.1 found
        rw [split]
        exact .notFinite sites? before after bad finite infinite
      · rename_i passed
        have finite := find?_notFinite_none_iff.1 passed
        split at rejected
        · cases rejected
        · rename_i sites
          split at rejected
          · rename_i same
            exact .sites sites field violation nonempty finite same
              (checkSites_eq_error_iff.1 rejected)
          · rename_i differ
            cases rejected
            exact .length sites field nonempty finite differ
  · intro fault
    cases fault with
    | empty => rfl
    | notFinite _ before after bad finite infinite =>
        have nonempty : before ++ bad :: after ≠ [] := by simp
        rw [if_neg nonempty, find?_notFinite_iff.2 ⟨before, after, rfl, infinite, finite⟩]
    | length sites _ nonempty finite differ =>
        rw [if_neg nonempty, find?_notFinite_none_iff.2 finite]
        exact if_neg differ
    | sites sites _ _ nonempty finite same fault =>
        rw [if_neg nonempty, find?_notFinite_none_iff.2 finite]
        exact (if_pos same).trans (checkSites_eq_error_iff.2 fault)

/-- Some call, on whatever server, that was to store the sites did not find them invalid. -/
inductive TakenIn (sites : List SiteId) : Prop where
  | created {σ : Type} (server : Server σ) (state : σ) (request : NewRupture)
      (lists : request.sites? = some sites)
      (valid : ∀ violation, ((Session.ofDialogue (Ruptures.create request)).run server state).result ≠
        .error (.invalid violation)) : TakenIn sites
  | assigned {σ : Type} (server : Server σ) (state : σ) (rupture : RecordId)
      (valid : ∀ violation, ((Ruptures.setSites rupture sites).run server state).result ≠
        .error (.invalid violation)) : TakenIn sites

theorem TakenIn.checked {sites : List SiteId} (taken : TakenIn sites) :
    checkSites sites = .ok () := by
  cases checked : checkSites sites with
  | ok => rfl
  | error violation =>
      cases taken with
      | created server state request lists valid =>
          apply absurd _ (valid violation)
          simp only [Ruptures.create, Ruptures.checkListed, lists, checked]
          rfl
      | assigned server state rupture valid =>
          apply absurd _ (valid violation)
          simp only [Ruptures.setSites, checked]
          rfl

/-- Which fields and which sites are admitted, and the reason for which a field is rejected; sites
that were taken in are no such reason. -/
theorem rejections_exact :
    (∀ sites? field, checkField sites? field = .ok () ↔
      field ≠ [] ∧ (∀ value ∈ field, value.isFinite = true) ∧
        ∀ sites, sites? = some sites →
          sites.length = field.length ∧ (∀ site ∈ sites, 0 ≤ site) ∧ sites.Nodup) ∧
    (∀ sites? field violation,
      checkField sites? field = .error violation ↔ FieldFault sites? field violation) ∧
    (∀ sites, checkSites sites = .ok () ↔ (∀ site ∈ sites, 0 ≤ site) ∧ sites.Nodup) ∧
    (∀ sites, checkSites sites = .error .repeatedSites ↔
      (∀ site ∈ sites, 0 ≤ site) ∧ sites.toFinset.card ≠ sites.length) ∧
    ∀ sites, TakenIn sites → ∀ field violation, checkField (some sites) field = .error violation →
      field = [] ∧ violation = .emptyField ∨
      (∃ value ∈ field, value.isFinite = false ∧ violation = .valueNotFinite value) ∨
      sites.length ≠ field.length ∧ violation = .lengthMismatch field.length sites.length := by
  refine ⟨?_, fun _ _ _ => checkField_eq_error_iff, checkSites_ok_iff,
    fun _ => checkSites_eq_repeated_iff, ?_⟩
  · intro sites? field
    rw [checkField_ok_iff]
    simp only [checkSites_ok_iff]
  · intro sites taken field violation rejected
    cases checkField_eq_error_iff.1 rejected with
    | empty => exact Or.inl ⟨rfl, rfl⟩
    | notFinite _ before after value finite bad =>
        exact Or.inr (Or.inl ⟨value, List.mem_append_cons_self, bad, rfl⟩)
    | length _ _ nonempty finite differ => exact Or.inr (Or.inr ⟨differ, rfl⟩)
    | sites _ _ _ nonempty finite same fault =>
        have invalid := checkSites_eq_error_iff.2 fault
        rw [taken.checked] at invalid
        cases invalid

theorem rejections_exact_crowded :
    FieldFault (some [-1, 3, 3]) [weak 1, .nan, .infinite true, weak 2] (.valueNotFinite .nan) ∧
      TakenIn [9, 4] ∧
      checkField (some [9, 4]) [weak 1] = .error (.lengthMismatch 1 2) ∧
      [(9 : SiteId), 4].length ≠ [weak 1].length := by
  obtain ⟨_, faults, _, _, usable⟩ := rejections_exact
  have taken : TakenIn [9, 4] := by
    apply TakenIn.assigned (Server.scripted ⟨none, none⟩) [] 1
    intro violation impossible
    cases impossible
  have mismatch : checkField (some [9, 4]) [weak 1] = .error (.lengthMismatch 1 2) := by
    rfl
  refine ⟨(faults _ _ _).1 rfl, taken, mismatch, ?_⟩
  rcases usable _ taken _ _ mismatch with ⟨impossible, _⟩ | ⟨_, _, _, impossible⟩ | ⟨differ, _⟩
  · cases impossible
  · cases impossible
  · exact differ

end HazardStore.GroundMotion
