import HazardStore.Proofs.GroundMotion.Field
import HazardStore.Proofs.Server.Truth
import HazardStore.Proofs.Session.Notes
import HazardStore.Proofs.Session.Runs
import HazardStore.Session.Script
import HazardStore.Store.Fields
/-!
The rows that are asked for to read one site. The query leaves out the ruptures that list their sites
without this one; whether a row has a value for the site is decided again when the rows are read, by
the place of the site in the list and by the length of the field. The first decision takes no value
away from the second.
-/

namespace HazardStore.Fields

variable {site : SiteId} {rows : List FieldAtSite} {values : GroundMotion.SiteValues}

def FieldAtSite.cells (field : FieldAtSite) :
    Cells [.bigInteger, .doubles, .integers] :=
  (some field.event, some (field.values.map some), field.sites?.map (List.map some), ())

theorem FieldAtSite.decode_cells (field : FieldAtSite) :
    decodeFieldAtSite field.cells = .ok (id field) := by
  change (Dialogue.elements _ (field.values.map some) >>= fun values =>
    Dialogue.elements? _ (field.sites?.map (List.map some)) >>= fun sites? =>
      Except.ok (FieldAtSite.mk field.event values sites?)) = _
  rw [Dialogue.elements_map_some, Dialogue.elements?_map_some]
  rfl

/-- The condition of the query: the rupture lists no sites, or the site is among them. -/
def affects (site : SiteId) (row : FieldAtSite) : Truth :=
  (Truth.isNull row.sites?).or (Truth.among (· == ·) site row.sites?)

def selected (site : SiteId) (rows : List FieldAtSite) : List FieldAtSite :=
  rows.filter (fun row => decide (affects site row).Selects)

theorem affects_selects_iff (site : SiteId) (row : FieldAtSite) :
    (affects site row).Selects ↔ ∀ sites, row.sites? = some sites → site ∈ sites := by
  obtain ⟨event, field, sites?⟩ := row
  rw [affects, Truth.selects_or]
  cases sites? with
  | none => exact iff_of_true (Or.inl rfl) (fun _ impossible => nomatch impossible)
  | some sites =>
      rw [Truth.isNull, Truth.among, Option.map_some, Truth.selects_known, Truth.selects_known]
      simp

theorem selected_eq (site : SiteId) (rows : List FieldAtSite) : selected site rows =
    rows.filter (fun row => row.sites?.elim true (fun sites => sites.contains site)) := by
  apply List.filter_congr
  intro row _
  rw [Bool.eq_iff_iff, decide_eq_true_iff, affects_selects_iff]
  cases row.sites? with
  | none => exact iff_of_true (fun _ impossible => nomatch impossible) rfl
  | some sites => simp

theorem valueAt?_eq_none_of_unselected {row : FieldAtSite} (unselected : ¬(affects site row).Selects) :
    row.valueAt? site = none := by
  rw [affects_selects_iff] at unselected
  simp only [not_forall] at unselected
  obtain ⟨sites, listed, unlisted⟩ := unselected
  rw [FieldAtSite.valueAt?, listed, GroundMotion.valueAt?_of_not_mem unlisted]
  rfl

theorem filterMap_selected (site : SiteId) (rows : List FieldAtSite) :
    (selected site rows).filterMap (FieldAtSite.valueAt? site) =
      rows.filterMap (FieldAtSite.valueAt? site) := by
  rw [selected, List.filterMap_filter]
  apply List.filterMap_congr
  intro row _
  split
  · rfl
  · rename_i unselected
    rw [valueAt?_eq_none_of_unselected (fun selects => unselected (decide_eq_true selects))]

/-- The value of every row that has one, beside the event rupture of the row: in the order of the
rows, and as often as they stand there. -/
def Gives (site : SiteId) (rows : List FieldAtSite) (values : GroundMotion.SiteValues) : Prop :=
  List.Forall₂ (fun row entry => entry.1 = row.event ∧
      GroundMotion.valueAt? row.sites? row.values site = some entry.2)
    (rows.filter (fun row => (GroundMotion.valueAt? row.sites? row.values site).isSome)) values

theorem gives_filterMap (site : SiteId) (rows : List FieldAtSite) :
    Gives site rows (rows.filterMap (FieldAtSite.valueAt? site)) := by
  unfold Gives
  induction rows with
  | nil => exact .nil
  | cons row others ih =>
      rw [List.filterMap_cons, List.filter_cons, FieldAtSite.valueAt?]
      cases given : GroundMotion.valueAt? row.sites? row.values site with
      | none => exact ih
      | some value => exact .cons ⟨rfl, given⟩ ih

section Reading

variable {σ τ ε : Type} [OfFault ε] (container measure : RecordId)

def answeredRows (server : Server σ) (site : SiteId) (state : σ) :
    Except Fault (List FieldAtSite) :=
  @Dialogue.allOf _ (.fieldsAtSite container measure site) decodeFieldAtSite
    (server.answer (.fieldsAtSite container measure site) state).1

def remark (site : SiteId) (values : GroundMotion.SiteValues) : List Event :=
  if values = [] then [.noted (.noValuesAtSite container measure site)] else []

omit [OfFault ε] in
theorem run_remark (server : Server σ) (site : SiteId) (values : GroundMotion.SiteValues)
    (state : σ) :
    (Session.ofDialogue (if values.isEmpty = true then
        .note (.noValuesAtSite container measure site) (.done values) else .done values) :
      Session ε _).run server state = ⟨.ok values, state, remark container measure site values⟩ := by
  cases values <;> rfl

theorem run_valuesAtSite_of_rows (server : Server σ) (state : σ)
    (answered : answeredRows container measure server site state = .ok rows) :
    let values := rows.filterMap (FieldAtSite.valueAt? site)
    (Session.ofDialogue (valuesAtSite container measure site) : Session ε _).run server state =
      ⟨.ok values, (server.answer (.fieldsAtSite container measure site) state).2,
        .sent (.fieldsAtSite container measure site) :: remark container measure site values⟩ := by
  intro values
  have asked : (Session.ofDialogue (Dialogue.all (.fieldsAtSite container measure site)
      decodeFieldAtSite) : Session ε _).run server state = _ :=
    Session.run_all server (.fieldsAtSite container measure site) decodeFieldAtSite state
  unfold answeredRows at answered
  rw [answered] at asked
  rw [valuesAtSite, Session.ofDialogue_bind, Session.run_bind, asked, Run.andThen_of_ok rfl]
  exact congrArg (fun rest => Run.mk rest.result rest.state
    (.sent (.fieldsAtSite container measure site) :: rest.trace))
    (run_remark (ε := ε) container measure server site values _)

theorem run_valuesAtSite_of_fault (server : Server σ) (state : σ) {fault : Fault}
    (answered : answeredRows container measure server site state = .error fault) :
    (Session.ofDialogue (valuesAtSite container measure site) : Session ε _).run server state =
      ⟨.error (OfFault.ofFault fault),
        (server.answer (.fieldsAtSite container measure site) state).2,
        [.sent (.fieldsAtSite container measure site)]⟩ := by
  have asked : (Session.ofDialogue (Dialogue.all (.fieldsAtSite container measure site)
      decodeFieldAtSite) : Session ε _).run server state = _ :=
    Session.run_all server (.fieldsAtSite container measure site) decodeFieldAtSite state
  unfold answeredRows at answered
  rw [answered] at asked
  rw [valuesAtSite, Session.ofDialogue_bind, Session.run_bind, asked, Run.andThen_of_error rfl]

end Reading

def warnings {ε : Type} (container measure : RecordId) (site : SiteId) :
    Except ε GroundMotion.SiteValues → List (List (String × JournalValue))
  | .ok [] => [[("gmf_id", .number container.toInt), ("imt_id", .number measure.toInt),
      ("site", .number site.toInt)]]
  | _ => []

structure ReadsSite {ε : Type} [OfFault ε] (container measure : RecordId) (site : SiteId)
    (answered : Except Fault (List FieldAtSite)) (result : Except ε GroundMotion.SiteValues)
    (trace : List Event) : Prop where
  values : ∀ rows, answered = .ok rows → ∃ values, Gives site rows values ∧ result = .ok values ∧
    trace = .sent (.fieldsAtSite container measure site) :: remark container measure site values
  failure : ∀ fault, answered = .error fault → result = .error (OfFault.ofFault fault) ∧
    trace = [.sent (.fieldsAtSite container measure site)]
  warned : logged "No ground motion values for site" trace = warnings container measure site result

theorem reads_site {σ ε : Type} [OfFault ε] (container measure : RecordId) (site : SiteId)
    (server : Server σ) (state : σ) :
    let run := (Session.ofDialogue (valuesAtSite container measure site) :
      Session ε _).run server state
    ReadsSite container measure site (answeredRows container measure server site state) run.result
      run.trace := by
  intro run
  cases answered : answeredRows container measure server site state with
  | error fault =>
      have ran : run = _ := run_valuesAtSite_of_fault container measure server state answered
      rw [ran]
      refine ⟨fun _ impossible => (nomatch impossible), ?_, rfl⟩
      intro other same
      cases same
      exact ⟨rfl, rfl⟩
  | ok rows =>
      have ran : run = _ := run_valuesAtSite_of_rows container measure server state answered
      rw [ran]
      refine ⟨?_, fun _ impossible => (nomatch impossible), ?_⟩
      · intro other same
        cases same
        exact ⟨_, gives_filterMap site rows, rfl, rfl⟩
      · cases rows.filterMap (FieldAtSite.valueAt? site) <;> rfl

/-- The query leaves out no value of its site: the rows that it takes and all rows together give the
same values, and the call that reads a site goes alike on either. On whatever it is answered the call
gives the value of every row that has one, and notes a site that has none. -/
theorem selection_takes_no_value {σ τ ε : Type} [OfFault ε] (container measure : RecordId)
    (site : SiteId) (server : Server σ) (state : σ) (whole : Server τ) (elsewhere : τ) :
    let run := (Session.ofDialogue (valuesAtSite container measure site) :
      Session ε _).run server state
    let unselected := (Session.ofDialogue (valuesAtSite container measure site) :
      Session ε _).run whole elsewhere
    ReadsSite container measure site (answeredRows container measure server site state) run.result
        run.trace ∧
      ∀ joined : List FieldAtSite,
        (selected site joined).filterMap (FieldAtSite.valueAt? site) =
            joined.filterMap (FieldAtSite.valueAt? site) ∧
          (answeredRows container measure server site state = .ok (selected site joined) →
            answeredRows container measure whole site elsewhere = .ok joined →
              run.result = unselected.result ∧ run.trace = unselected.trace) := by
  intro run unselected
  refine ⟨reads_site container measure site server state, ?_⟩
  intro joined
  refine ⟨filterMap_selected site joined, ?_⟩
  intro taken all
  have ran : run = _ := run_valuesAtSite_of_rows container measure server state taken
  have ranWhole : unselected = _ := run_valuesAtSite_of_rows container measure whole elsewhere all
  rw [ran, ranWhole, filterMap_selected]
  exact ⟨rfl, rfl⟩

/-- For site 9 only the last two rows have a value. The first one lists the site beyond the end of its
field, the second one lists other sites, and the third one lists none and ends before. -/
def joinedRows (one other : Double) : List FieldAtSite :=
  [⟨30, [one], some [5, 9]⟩, ⟨10, [one, other], some [5, 4]⟩, ⟨20, [one], none⟩,
    ⟨20, [one, other], some [5, 9]⟩, ⟨20, [one, other], some [5, 9]⟩]

def answering (rows : List FieldAtSite) : List ScriptEntry :=
  [Function.update (fun _ => .error Server.exhausted) (.fieldsAtSite 1 1 9)
    (.ok (.rows (rows.map FieldAtSite.cells)))]

theorem selection_takes_no_value_twice :
    let joined := joinedRows (GroundMotion.weak 1) (GroundMotion.weak 2)
    let server := Server.scripted ⟨none, none⟩
    let run := (Session.ofDialogue (valuesAtSite 1 1 9) : Session Fault _).run server
      (answering (selected 9 joined))
    let unselected := (Session.ofDialogue (valuesAtSite 1 1 9) : Session Fault _).run server
      (answering joined)
    selected 9 joined ≠ joined ∧ run.result = unselected.result ∧
      unselected.result = .ok [(20, GroundMotion.weak 2), (20, GroundMotion.weak 2)] := by
  intro joined server run unselected
  have same := (selection_takes_no_value (ε := Fault) 1 1 9 server
    (answering (selected 9 joined)) server (answering joined)).2 joined
  exact ⟨by decide, (same.2 rfl rfl).1, rfl⟩

end HazardStore.Fields
