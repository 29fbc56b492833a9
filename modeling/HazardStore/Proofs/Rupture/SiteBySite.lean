import HazardStore.Proofs.GroundMotion.Alignment
import HazardStore.Proofs.Session.Runs
import HazardStore.Session.Script
import HazardStore.Store.Fields
/-!
Several sites asked for at once and each of them asked for in turn. The one call sends and notes what
the calls for single sites do on the same connection, up to the first of them that fails; that
failure is its own. When none fails it gives the alignment of their values, one row for every site
that was asked for.
-/

namespace HazardStore

namespace Run

variable {σ ε α β : Type}

/-- The one call goes as the calls that follow one another, all of which succeed. -/
structure Completes (state : σ) (runs : List (Run σ ε α)) (values : List α) (whole : Run σ ε β) :
    Prop where
  succeeded : runs.map Run.result = values.map .ok
  left : whole.state = runs.foldl (fun _ run => run.state) state
  trace : whole.trace = runs.flatMap Run.trace

/-- The one call goes as the calls that follow one another, ends with the first of them that fails
and fails as that one does. -/
structure Stops (before : List (Run σ ε α)) (failing : Run σ ε α) (error : ε) (whole : Run σ ε β) :
    Prop where
  succeeded : ∀ run ∈ before, ∃ value, run.result = .ok value
  failed : failing.result = .error error
  result : whole.result = .error error
  left : whole.state = failing.state
  trace : whole.trace = (before ++ [failing]).flatMap Run.trace

end Run

namespace Fields

open GroundMotion

variable {σ ε : Type} [OfFault ε] (server : Server σ) (container measure : RecordId)

def siteRun (site : SiteId) (state : σ) : Run σ ε SiteValues :=
  (Session.ofDialogue (valuesAtSite container measure site)).run server state

def siteRuns : List SiteId → σ → List (Run σ ε SiteValues)
  | [], _ => []
  | site :: sites, state =>
      siteRun server container measure site state ::
        siteRuns sites (siteRun (ε := ε) server container measure site state).state

theorem length_siteRuns (sites : List SiteId) (state : σ) :
    (siteRuns server container measure sites state : List (Run σ ε SiteValues)).length =
      sites.length := by
  induction sites generalizing state with
  | nil => rfl
  | cons site others ih => rw [siteRuns, List.length_cons, List.length_cons, ih]

def collectRun (sites : List SiteId) (state : σ) : Run σ ε (List (SiteId × SiteValues)) :=
  (Session.ofDialogue (collect container measure sites)).run server state

theorem collectRun_cons (site : SiteId) (sites : List SiteId) (state : σ) :
    (collectRun server container measure (site :: sites) state : Run σ ε _) =
      (siteRun server container measure site state).andThen (fun values after =>
        (collectRun server container measure sites after).andThen (fun others last =>
          ⟨.ok ((site, values) :: others), last, []⟩)) := by
  unfold collectRun
  rw [collect, Session.ofDialogue_bind, Session.run_bind]
  congr 1
  funext values after
  rw [Session.ofDialogue_bind, Session.run_bind]
  rfl

theorem collectRun_runs (sites : List SiteId) (state : σ) :
    let runs := (siteRuns server container measure sites state : List (Run σ ε SiteValues))
    let whole := (collectRun server container measure sites state : Run σ ε _)
    (∃ values, Run.Completes state runs values whole ∧ whole.result = .ok (sites.zip values)) ∨
      ∃ before failing after error, runs = before ++ failing :: after ∧
        Run.Stops before failing error whole := by
  induction sites generalizing state with
  | nil => exact Or.inl ⟨[], ⟨rfl, rfl, rfl⟩, rfl⟩
  | cons site others ih =>
      dsimp only
      rw [collectRun_cons, siteRuns]
      generalize (siteRun server container measure site state : Run σ ε SiteValues) = first
      -- the first failure is here, or it is the first one of the other sites
      cases here : first.result with
      | error error =>
          rw [Run.andThen_of_error here]
          refine Or.inr ⟨[], first, _, error, rfl, ?_⟩
          exact ⟨(fun _ impossible => nomatch impossible), here, rfl, rfl,
            (List.append_nil first.trace).symm⟩
      | ok values =>
          rw [Run.andThen_of_ok here]
          rcases ih first.state with
            ⟨rest, completes, result⟩ | ⟨before, failing, after, error, parts, stops⟩
          · rw [Run.andThen_of_ok result]
            refine Or.inl ⟨values :: rest, ⟨?_, ?_, ?_⟩, rfl⟩
            · rw [List.map_cons, List.map_cons, here, completes.succeeded]
            · rw [completes.left]
              rfl
            · rw [completes.trace, List.append_nil]
              rfl
          · rw [Run.andThen_of_error stops.result]
            refine Or.inr ⟨first :: before, failing, after, error, ?_, ?_, stops.failed, rfl,
              stops.left, ?_⟩
            · rw [parts]
              rfl
            · intro run member
              rcases List.mem_cons.1 member with now | earlier
              · rw [now]
                exact ⟨values, here⟩
              · exact stops.succeeded run earlier
            · rw [stops.trace]
              rfl

theorem run_valuesAtSites (sites : List SiteId) (state : σ) :
    (Session.ofDialogue (valuesAtSites container measure sites) : Session ε _).run server state =
      (collectRun server container measure sites state).andThen (fun perSite after =>
        ⟨.ok (align perSite), after, []⟩) := by
  rw [valuesAtSites, Session.ofDialogue_bind, Session.run_bind]
  rfl

/-- Asking for several sites at once is asking for each of them in turn. Either every single call
succeeds, and the one call sends and notes what they do and gives the alignment of their values, with
a row for every site in the order asked for; or it goes as they do up to the first that fails, sends
nothing after it and fails as it did. -/
theorem sites_read_one_by_one (sites : List SiteId) (state : σ) :
    let runs := (siteRuns server container measure sites state : List (Run σ ε SiteValues))
    let whole := (Session.ofDialogue (valuesAtSites container measure sites) :
      Session ε AlignedField).run server state
    runs.length = sites.length ∧
      ((∃ values aligned, Run.Completes state runs values whole ∧ whole.result = .ok aligned ∧
          Aligns (sites.zip values) aligned ∧ aligned.rows.map Prod.fst = sites ∧
          ∀ row ∈ aligned.rows, row.2.length = aligned.ruptures.length) ∨
        ∃ before failing after error, runs = before ++ failing :: after ∧
          Run.Stops before failing error whole) := by
  intro runs whole
  have length : runs.length = sites.length := length_siteRuns server container measure sites state
  refine ⟨length, ?_⟩
  have asOne : whole = _ := run_valuesAtSites server container measure sites state
  rw [asOne]
  rcases collectRun_runs (ε := ε) server container measure sites state with
    ⟨values, completes, result⟩ | ⟨before, failing, after, error, parts, stops⟩
  · rw [Run.andThen_of_ok result]
    have aligns := Aligns.align (sites.zip values)
    have many : sites.length = values.length := by
      have same := congrArg List.length completes.succeeded
      rw [List.length_map, List.length_map] at same
      exact length.symm.trans same
    refine Or.inl ⟨values, _, ⟨completes.succeeded, completes.left, ?_⟩, rfl, aligns, ?_,
      aligns.width⟩
    · rw [List.append_nil]
      exact completes.trace
    · rw [aligns.sites, List.map_fst_zip (Nat.le_of_eq many)]
  · rw [Run.andThen_of_error stops.result]
    exact Or.inr ⟨before, failing, after, error, parts,
      ⟨stops.succeeded, stops.failed, rfl, stops.left, stops.trace⟩⟩

def brokenScript : List ScriptEntry :=
  [fun
    | .fieldsAtSite _ _ _ => .ok (.rows [(some (30 : RecordId), some [some (weak 1)], none, ()),
        (some (10 : RecordId), some [some (weak 2)], none, ())])
    | _ => .error Server.exhausted,
  fun _ => .error ⟨"57014", "canceling statement due to user request"⟩,
  fun _ => .ok (.rows [])]

theorem sites_read_one_by_one_broken :
    let server := Server.scripted ⟨none, none⟩
    let runs := siteRuns (ε := Fault) server 1 1 [0, 1, 0] brokenScript
    let whole := (Session.ofDialogue (valuesAtSites 1 1 [0, 1, 0]) :
      Session Fault AlignedField).run server brokenScript
    (∃ before failing after error, runs = before ++ failing :: after ∧
        Run.Stops before failing error whole) ∧
      whole.trace = [.sent (.fieldsAtSite 1 1 0), .sent (.fieldsAtSite 1 1 1)] := by
  intro server runs whole
  refine ⟨?_, rfl⟩
  rcases (sites_read_one_by_one (ε := Fault) server 1 1 [0, 1, 0] brokenScript).2 with
    ⟨values, aligned, _, succeeded, _⟩ | stopped
  · have failed : whole.result = .error _ := rfl
    rw [failed] at succeeded
    cases succeeded
  · exact stopped

end Fields

end HazardStore
