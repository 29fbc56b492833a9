import HazardStore.GroundMotion.Field
import Mathlib.Data.List.Nodup
/-!
What a field says about sites. A field that was admitted is a finite function: every listed site has
the value at its place in the list and no other site has one; where no sites are listed, every site
has the value at its own number. It is the checks of the field that make it so: a list of another
length, or one that names a site twice, would leave values that no site reads.
-/

namespace HazardStore.GroundMotion

variable {sites : List SiteId} {sites? : Option (List SiteId)} {field : List Double}
  {site : SiteId} {position : Nat} {value : Double}

theorem checkSites_ok_iff (sites : List SiteId) :
    checkSites sites = .ok () ↔ (∀ site ∈ sites, 0 ≤ site) ∧ sites.Nodup := by
  unfold checkSites
  cases found : sites.find? (fun site => decide (site < 0)) with
  | some negative =>
      have below := List.find?_some found
      constructor
      · intro impossible
        cases impossible
      · intro both
        obtain ⟨nonnegative, _⟩ := both
        have least := nonnegative negative (List.mem_of_find?_eq_some found)
        exact absurd (of_decide_eq_true below) (Int32.not_lt.2 least)
  | none =>
      have nonnegative : ∀ site ∈ sites, 0 ≤ site := by
        intro site there
        have notBelow := List.find?_eq_none.1 found site there
        exact Int32.not_lt.1 (fun below => notBelow (decide_eq_true below))
      by_cases distinct : sites.Nodup
      · simp only [distinct, if_true, and_true, true_iff]
        exact nonnegative
      · simp [distinct]

theorem checkField_ok_iff (sites? : Option (List SiteId)) (field : List Double) :
    checkField sites? field = .ok () ↔ field ≠ [] ∧ (∀ value ∈ field, value.isFinite = true) ∧
      ∀ sites, sites? = some sites →
        sites.length = field.length ∧ checkSites sites = .ok () := by
  unfold checkField
  by_cases empty : field = []
  · simp [empty]
  · rw [if_neg empty]
    cases found : field.find? (fun value => !value.isFinite) with
    | some bad =>
        have infinite := List.find?_some found
        constructor
        · intro impossible
          cases impossible
        · intro all
          rw [all.2.1 bad (List.mem_of_find?_eq_some found)] at infinite
          cases infinite
    | none =>
        have finite : ∀ value ∈ field, value.isFinite = true := by
          intro value there
          have notBad := List.find?_eq_none.1 found value there
          rwa [Bool.not_eq_true', Bool.not_eq_false] at notBad
        cases sites? with
        | none => exact iff_of_true rfl ⟨empty, finite, fun _ impossible => nomatch impossible⟩
        | some sites =>
            dsimp only
            by_cases same : sites.length = field.length
            · rw [if_pos same]
              constructor
              · intro accepted
                refine ⟨empty, finite, ?_⟩
                intro listed equal
                cases equal
                exact ⟨same, accepted⟩
              · intro all
                exact (all.2.2 sites rfl).2
            · rw [if_neg same]
              constructor
              · intro impossible
                cases impossible
              · intro all
                exact absurd (all.2.2 sites rfl).1 same

theorem position?_listed (distinct : sites.Nodup) :
    position? (some sites) site = some position ↔ sites[position]? = some site := by
  unfold position?
  rw [List.idxOf?_eq_some_iff, List.getElem?_eq_some_iff]
  constructor
  · intro first
    obtain ⟨within, here, _⟩ := first
    exact ⟨within, here⟩
  · intro listed
    obtain ⟨within, here⟩ := listed
    refine ⟨within, here, ?_⟩
    intro earlier before there
    have same := distinct.getElem_inj_iff.1 (there.trans here.symm)
    omega

theorem position?_unlisted : position? (some sites) site = none ↔ site ∉ sites :=
  List.idxOf?_eq_none_iff

theorem position?_placed : position? none site = some position ↔ site.toInt = position := by
  change (if 0 ≤ site then some site.toInt.toNat else none) = some position ↔ _
  have sign : 0 ≤ site ↔ 0 ≤ site.toInt := Int32.le_iff_toInt_le
  by_cases nonnegative : 0 ≤ site.toInt
  · rw [if_pos (sign.2 nonnegative), Option.some.injEq]
    omega
  · rw [if_neg (fun least => nonnegative (sign.1 least))]
    simp only [reduceCtorEq, false_iff]
    omega

theorem valueAt?_eq_some_iff : valueAt? sites? field site = some value ↔
    ∃ position, position? sites? site = some position ∧ field[position]? = some value :=
  Option.bind_eq_some_iff

theorem valueAt?_of_position? (stands : position? sites? site = some position) :
    valueAt? sites? field site = field[position]? := by
  simp only [valueAt?, stands, Option.bind_eq_bind, Option.bind_some]

theorem valueAt?_of_not_mem (unlisted : site ∉ sites) (field : List Double) :
    valueAt? (some sites) field site = none := by
  simp only [valueAt?, position?_unlisted.2 unlisted, Option.bind_eq_bind, Option.bind_none]

theorem position?_surjective (distinct : ∀ sites, sites? = some sites → sites.Nodup)
    (within : ∀ sites, sites? = some sites → position < sites.length) :
    (∃ site, position? sites? site = some position) ↔
      (sites? = none → position ≤ Int32.maxValue.toInt) := by
  cases sites? with
  | some sites =>
      have inside := within sites rfl
      have listed : position? (some sites) sites[position] = some position :=
        (position?_listed (distinct sites rfl)).2 (List.getElem?_eq_getElem inside)
      exact iff_of_true ⟨_, listed⟩ (fun impossible => nomatch impossible)
  | none =>
      constructor
      · intro some _
        obtain ⟨site, stands⟩ := some
        rw [← position?_placed.1 stands]
        exact site.toInt_le
      · intro numbered
        have small : (position : Int) ≤ 2147483647 := numbered rfl
        refine ⟨Int32.ofNat position, position?_placed.2 ?_⟩
        exact Int32.toInt_ofNat_of_lt (by omega)

/-- What a field gives to every site, with the sites that it was admitted for. -/
structure ReadsBack (sites? : Option (List SiteId)) (field : List Double) : Prop where
  listed : ∀ sites, sites? = some sites →
    (∀ (position : Nat) site, sites[position]? = some site →
      ∃ value, field[position]? = some value ∧ valueAt? sites? field site = some value) ∧
    ∀ site, site ∉ sites → valueAt? sites? field site = none
  placed : sites? = none →
    (∀ (position : Nat) (site : SiteId), site.toInt = position →
      ∀ value, field[position]? = some value → valueAt? sites? field site = some value) ∧
    ∀ site : SiteId, site.toInt < 0 ∨ field.length ≤ site.toInt → valueAt? sites? field site = none
  finite : ∀ site value, valueAt? sites? field site = some value → value.isFinite = true
  reached : ∀ (position : Nat) value, field[position]? = some value →
    ((∃ site, position? sites? site = some position ∧
      valueAt? sites? field site = some value) ↔
        (sites? = none → position ≤ Int32.maxValue.toInt))

/-- What was admitted is read back: the sites read exactly the values of the field, each its own. -/
theorem field_reads_back (sites? : Option (List SiteId)) (field : List Double)
    (admitted : checkField sites? field = .ok ()) : ReadsBack sites? field := by
  obtain ⟨_, finite, fits⟩ := (checkField_ok_iff sites? field).1 admitted
  have distinct : ∀ sites, sites? = some sites → sites.Nodup :=
    fun sites listed => ((checkSites_ok_iff sites).1 (fits sites listed).2).2
  constructor
  case listed =>
    intro sites listed
    have length := (fits sites listed).1
    have once := distinct sites listed
    subst listed
    constructor
    · intro position site here
      have within : position < field.length :=
        length ▸ (List.getElem?_eq_some_iff.1 here).1
      refine ⟨field[position], List.getElem?_eq_getElem within, ?_⟩
      rw [valueAt?_of_position? ((position?_listed once).2 here), List.getElem?_eq_getElem within]
    · intro site unlisted
      exact valueAt?_of_not_mem unlisted field
  case placed =>
    intro unlisted
    subst unlisted
    constructor
    · intro position site number value there
      rw [valueAt?_of_position? (position?_placed.2 number), there]
    · intro site outside
      rw [Option.eq_none_iff_forall_ne_some]
      intro value read
      obtain ⟨position, stands, there⟩ := valueAt?_eq_some_iff.1 read
      have number := position?_placed.1 stands
      have within := (List.getElem?_eq_some_iff.1 there).1
      omega
  case finite =>
    intro site value read
    obtain ⟨position, _, there⟩ := valueAt?_eq_some_iff.1 read
    exact finite value (List.mem_of_getElem? there)
  case reached =>
    intro position value there
    -- a listed site stands at the position, and without a list the position is the site
    have inSites : ∀ sites, sites? = some sites → position < sites.length :=
      fun sites listed => (fits sites listed).1 ▸ (List.getElem?_eq_some_iff.1 there).1
    rw [← position?_surjective distinct inSites]
    apply exists_congr
    intro site
    apply and_iff_left_of_imp
    intro stands
    rw [valueAt?_of_position? stands, there]

def weak (code : Fin 4) : Double :=
  .finite false (code.castLE (by decide))

theorem field_reads_back_unordered :
    checkField (some [9, 4, 2147483647]) [weak 3, weak 1, weak 2] = .ok () ∧
      ReadsBack (some [9, 4, 2147483647]) [weak 3, weak 1, weak 2] ∧
      valueAt? (some [9, 4, 2147483647]) [weak 3, weak 1, weak 2] 2147483647 = some (weak 2) ∧
      valueAt? (some [9, 4, 2147483647]) [weak 3, weak 1, weak 2] 0 = none := by
  have admitted : checkField (some [9, 4, 2147483647]) [weak 3, weak 1, weak 2] = .ok () := by
    decide
  have back := field_reads_back _ _ admitted
  refine ⟨admitted, back, ?_, (back.listed _ rfl).2 0 (by decide)⟩
  obtain ⟨value, there, read⟩ := (back.listed _ rfl).1 2 2147483647 rfl
  cases there
  exact read

/-- A field that is nought at its first positions, and one value after them. -/
def lastAfter (noughts : Nat) (last : Double) : List Double :=
  List.replicate noughts .zero ++ [last]

theorem lastAfter_admitted (noughts : Nat) {last : Double} (finite : last.isFinite = true) :
    checkField none (lastAfter noughts last) = .ok () := by
  rw [checkField_ok_iff]
  refine ⟨List.append_ne_nil_of_right_ne_nil _ (List.cons_ne_nil _ _), ?_,
    fun _ impossible => nomatch impossible⟩
  intro value there
  rcases List.mem_append.1 there with nought | atEnd
  · rw [List.eq_of_mem_replicate nought]
    rfl
  · rw [List.mem_singleton.1 atEnd]
    exact finite

theorem lastAfter_getElem? (noughts position : Nat) {last : Double} (weighs : last ≠ .zero) :
    (lastAfter noughts last)[position]? = some last ↔ position = noughts := by
  constructor
  · intro there
    by_contra other
    rcases Nat.lt_or_gt_of_ne other with before | after
    · rw [lastAfter, List.getElem?_append_left (by rwa [List.length_replicate]),
        List.getElem?_replicate_of_lt before] at there
      exact weighs (Option.some.inj there).symm
    · have beyond : (lastAfter noughts last).length ≤ position := by
        rw [lastAfter, List.length_append, List.length_replicate, List.length_singleton]
        exact after
      rw [List.getElem?_eq_none beyond] at there
      cases there
  · intro atEnd
    rw [atEnd, lastAfter, List.getElem?_append_right (Nat.le_of_eq List.length_replicate),
      List.length_replicate, Nat.sub_self]
    rfl

theorem lastAfter_unread {noughts : Nat} (beyond : Int32.maxValue.toInt < noughts) {last : Double}
    (weighs : last ≠ .zero) (site : SiteId) :
    valueAt? none (lastAfter noughts last) site ≠ some last := by
  intro read
  obtain ⟨position, stands, there⟩ := valueAt?_eq_some_iff.1 read
  rw [(lastAfter_getElem? noughts position weighs).1 there] at stands
  have greatest : site.toInt ≤ Int32.maxValue.toInt := site.toInt_le
  rw [position?_placed.1 stands] at greatest
  omega

/-- One value more than there are numbers of sites: the field is admitted, and no site reads its
last value. -/
theorem value_beyond_sites :
    let field := lastAfter 2147483648 (weak 1)
    checkField none field = .ok () ∧ field[2147483648]? = some (weak 1) ∧
      ∀ site, valueAt? none field site ≠ some (weak 1) := by
  have weighs : weak 1 ≠ .zero := by decide
  exact ⟨lastAfter_admitted _ rfl, (lastAfter_getElem? _ _ weighs).2 rfl,
    lastAfter_unread (by decide) weighs⟩

end HazardStore.GroundMotion
