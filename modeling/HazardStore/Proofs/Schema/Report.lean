import HazardStore.Proofs.Schema.Checks
/-!
What verification reports. Along its route it finds what each check finds in the database that the
answers tell of, check after check. Relations that deviate are all that is reported, and an answer
that was refused or cannot be read ends the verification.
-/

namespace HazardStore.Schema

open Dialogue

section Following

variable {ε α : Type} [OfFault ε]

def follow (answers : Answers) : List Check → Run Unit ε α → Run Unit ε α
  | [], rest => rest
  | check :: others, rest =>
      (match check.judge (answers check.statement) with
        | .ok _ => follow answers others rest
        | .error fault => ⟨.error (OfFault.ofFault fault), (), []⟩).after (.sent check.statement)

variable {answers : Answers}

theorem follow_append (first second : List Check) (rest : Run Unit ε α) :
    follow answers (first ++ second) rest = follow answers first (follow answers second rest) := by
  induction first with
  | nil => rfl
  | cons check others ih => rw [List.cons_append, follow, follow, ih]

theorem follow_of_reads {checks : List Check} (reads : ∀ check ∈ checks, check.Reads answers)
    (rest : Run Unit ε α) :
    follow answers checks rest =
      { rest with trace := checks.map (fun check => .sent check.statement) ++ rest.trace } := by
  induction checks with
  | nil => rfl
  | cons check others ih =>
      obtain ⟨found, judged⟩ := reads check (List.mem_cons_self ..)
      rw [follow, judged]
      simp only [ih (fun other member => reads other (List.mem_cons_of_mem _ member)), Run.after,
        List.map_cons, List.cons_append]

theorem follow_of_refused {before : List Check} {check : Check} {fault : Fault}
    (reads : ∀ earlier ∈ before, earlier.Reads answers)
    (refused : check.judge (answers check.statement) = .error fault) (after : List Check)
    (rest : Run Unit ε α) :
    follow answers (before ++ check :: after) rest =
      ⟨.error (OfFault.ofFault fault), (),
        (before ++ [check]).map (fun check => .sent check.statement)⟩ := by
  rw [follow_append, follow_of_reads reads, follow, refused, List.map_append]
  rfl

theorem reads_of_follow {checks : List Check} {rest : Run Unit ε α} {value : α}
    (succeeded : (follow answers checks rest).result = .ok value) :
    ∀ check ∈ checks, check.Reads answers := by
  induction checks with
  | nil => exact fun _ member => absurd member List.not_mem_nil
  | cons check others ih =>
      intro one member
      rw [follow, Run.after_result] at succeeded
      cases judged : check.judge (answers check.statement) with
      | error fault =>
          rw [judged] at succeeded
          cases succeeded
      | ok found =>
          rw [judged] at succeeded
          rcases List.mem_cons.1 member with same | later
          · rw [same]
            exact ⟨found, judged⟩
          · exact ih succeeded one later

theorem run_gather_bind (checks : List Check)
    (continuation : List SchemaProblem → Dialogue ε α) :
    (Session.ofDialogue (gather Check.ask checks >>= continuation)).run (.settled answers) () =
      follow answers checks
        ((Session.ofDialogue (continuation (checks.flatMap (Check.found answers)))).run
          (.settled answers) ()) := by
  induction checks generalizing continuation with
  | nil => rfl
  | cons check others ih =>
      rw [gather, bind_assoc]
      change ((Session.ofDialogue ((decoded (check.judge (answers check.statement))).bind _)).run
        (.settled answers) ()).after _ = _
      rw [follow]
      cases judged : check.judge (answers check.statement) with
      | error fault => rfl
      | ok found =>
          have here : check.found answers = found := Check.found_of_judge judged
          simp only [decoded, Dialogue.bind, bind_assoc, pure_bind, ih, List.flatMap_cons, here]

theorem run_content (answers : Answers) :
    (Session.ofDialogue (gather Check.ask contentChecks >>= fun content =>
      registrarCheck.ask >>= fun absent =>
        (if absent = [] then gather Check.ask guardedChecks else pure []) >>= fun found =>
          (report (content ++ (absent ++ found)) : Dialogue ε _))).run (.settled answers) () =
      follow answers (contentRoute answers)
        ((Session.ofDialogue (report ((contentRoute answers).flatMap (Check.found answers)))).run
          (.settled answers) ()) := by
  rw [run_gather_bind, contentRoute, follow_append, ← gather_singleton Check.ask registrarCheck,
    run_gather_bind, follow_append, List.flatMap_append, List.flatMap_append]
  by_cases there : registrarCheck.found answers = []
  · simp only [List.flatMap_singleton, if_pos there, run_gather_bind]
  · simp only [List.flatMap_singleton, if_neg there, pure_bind]
    rfl

/-- Verification follows its route to the end or to an answer that cannot be read. -/
theorem run_verify (answers : Answers) :
    (Session.ofDialogue (verify : Dialogue ε _)).run (.settled answers) () =
      follow answers (route answers)
        ⟨.ok ((route answers).flatMap (Check.found answers)), (),
          if relationChecks.flatMap (Check.found answers) = [] then
            [.noted (verdict ((route answers).flatMap (Check.found answers)))]
          else []⟩ := by
  rw [verify_eq, run_gather_bind, route, follow_append, List.flatMap_append]
  by_cases conform : relationChecks.flatMap (Check.found answers) = []
  · rw [if_pos conform, if_pos conform, if_pos conform, conform, run_content]
    rfl
  · rw [if_neg conform, if_neg conform, if_neg conform, List.flatMap_nil, List.append_nil]
    rfl

end Following

section Showing

variable {answers : Answers}

/-- All answers that the checks ask for can be read, and the problems are what they show. -/
structure Shows (answers : Answers) (checks : List Check) (problems : List SchemaProblem) :
    Prop where
  reads : ∀ check ∈ checks, check.Reads answers
  found : checks.flatMap (Check.found answers) = problems

namespace Shows

theorem none : Shows answers [] [] :=
  ⟨fun _ member => absurd member List.not_mem_nil, rfl⟩

theorem one {check : Check} {problems : List SchemaProblem}
    (judged : check.judge (answers check.statement) = .ok problems) :
    Shows answers [check] problems := by
  refine ⟨?_, ?_⟩
  · intro one member
    rw [List.mem_singleton.1 member]
    exact ⟨problems, judged⟩
  · rw [List.flatMap_singleton, Check.found_of_judge judged]

theorem append {first second : List Check} {found more : List SchemaProblem}
    (before : Shows answers first found) (after : Shows answers second more) :
    Shows answers (first ++ second) (found ++ more) := by
  refine ⟨?_, ?_⟩
  · intro check member
    rcases List.mem_append.1 member with early | late
    · exact before.reads check early
    · exact after.reads check late
  · rw [List.flatMap_append, before.found, after.found]

theorem map {α : Type} {subjects : List α} {check : α → Check} {findings : α → List SchemaProblem}
    (judged : ∀ subject ∈ subjects,
      (check subject).judge (answers (check subject).statement) = .ok (findings subject)) :
    Shows answers (subjects.map check) (subjects.flatMap findings) := by
  induction subjects with
  | nil => exact none
  | cons subject others ih =>
      exact (one (judged subject (List.mem_cons_self ..))).append
        (ih (fun other member => judged other (List.mem_cons_of_mem _ member)))

end Shows

theorem judge_of_read {α : Type} {reading : Except Fault α} {value : α} (read : reading = .ok value)
    (findings : α → List SchemaProblem) : reading.map findings = .ok (findings value) := by
  rw [read]
  rfl

end Showing

namespace Catalog

/-! ### From answers to findings -/

section Reading

variable {answers : Answers} {catalog : Catalog}

theorem RelationsIn.shows (told : catalog.RelationsIn answers) :
    Shows answers relationChecks catalog.relationFindings :=
  (Shows.map (fun table member => judge_of_read (told.table table member) _)).append
    (Shows.one (judge_of_read told.retired _))

theorem ContentIn.shows_guarded (told : catalog.ContentIn answers) :
    Shows answers (if registrarCheck.found answers = [] then guardedChecks else [])
      (if catalog.registrarThere then
        guardedTables.flatMap
          (fun guarded => privilegeFindings guarded (catalog.privileges guarded))
      else []) := by
  have asked : registrarCheck.found answers = registrarFinding catalog.registrarThere :=
    Check.found_of_judge (judge_of_read told.registrar _)
  rw [asked]
  cases there : catalog.registrarThere with
  | false => exact Shows.none
  | true =>
      exact Shows.map (fun guarded member =>
        judge_of_read (told.privileges there guarded member) _)

theorem ContentIn.shows (told : catalog.ContentIn answers) :
    Shows answers (contentRoute answers) catalog.contentFindings := by
  have column : Shows answers [sitesColumnCheck] _ := .one (judge_of_read told.column _)
  have cascades : Shows answers [cascadeCheck] _ := .one (judge_of_read told.cascades _)
  have names : Shows answers [namesCheck] _ := .one (judge_of_read told.names _)
  have index : Shows answers [indexCheck] _ := .one (judge_of_read told.index _)
  have presence : Shows answers [presenceCheck] _ := .one (judge_of_read told.presence _)
  have duplicates : Shows answers [duplicatesCheck] _ := .one (judge_of_read told.duplicates _)
  have references : Shows answers (ReferenceMeasure.seeds.map referenceCheck) _ :=
    .map (fun reference member => judge_of_read (told.references reference member) _)
  have registrars : Shows answers [registrarCheck] _ := .one (judge_of_read told.registrar _)
  have shown := column.append (cascades.append (names.append (index.append (presence.append
    (duplicates.append (references.append (registrars.append told.shows_guarded)))))))
  simp only [contentFindings, List.append_assoc]
  exact shown

def ofAnswers (answers : Answers) : Catalog where
  tableThere table := (answers.first (.relationExists table) decodeFlag).toOption.getD false
  retiredThere := (answers.first (.relationExists retiredTable) decodeFlag).toOption.getD false
  column? := (answers.first? .sitesColumn ColumnShape.decode).toOption.getD none
  cascading := (answers.all .fieldCascades decodeName).toOption.getD []
  checkNames := (answers.all .measureChecks decodeName).toOption.getD []
  indexThere := (answers.first (.measureIndexExists measureIndex) decodeFlag).toOption.getD false
  violations := (answers.first .presenceViolations decodeTotal).toOption.getD 0
  duplicates := (answers.all .duplicateMeasures DuplicateGroup.decode).toOption.getD []
  referenceThere reference :=
    (answers.first (.referenceExists reference) decodeFlag).toOption.getD false
  registrarThere := (answers.first (.roleExists registrar) decodeFlag).toOption.getD false
  privileges guarded :=
    (answers.first (.privileges registrar guarded.table guarded.sequence)
      Privileges.decode).toOption.getD ⟨false, false, false, false, false⟩

theorem read_of_judge {α : Type} {reading : Except Fault α} {findings : α → List SchemaProblem}
    (judged : ∃ found, reading.map findings = .ok found) (missing : α) :
    reading = .ok (reading.toOption.getD missing) := by
  cases reading with
  | ok value => rfl
  | error fault =>
      obtain ⟨found, impossible⟩ := judged
      cases impossible

theorem relationsIn_of_reads (reads : ∀ check ∈ relationChecks, check.Reads answers) :
    (ofAnswers answers).RelationsIn answers where
  table table member :=
    read_of_judge (reads (tableCheck table) (List.mem_append_left _ (List.mem_map_of_mem member))) _
  retired := read_of_judge (reads _ (List.mem_append_right _ (List.mem_singleton_self _))) _

theorem contentIn_of_reads (reads : ∀ check ∈ contentRoute answers, check.Reads answers) :
    (ofAnswers answers).ContentIn answers := by
  have content (check : Check) (member : check ∈ contentChecks) : check.Reads answers :=
    reads check (List.mem_append_left _ member)
  have registrars : registrarCheck.Reads answers :=
    reads _ (List.mem_append_right _ (List.mem_append_left _ (List.mem_singleton_self _)))
  have registrar := read_of_judge registrars false
  constructor
  case column => exact read_of_judge (content sitesColumnCheck (by simp [contentChecks])) _
  case cascades => exact read_of_judge (content cascadeCheck (by simp [contentChecks])) _
  case names => exact read_of_judge (content namesCheck (by simp [contentChecks])) _
  case index => exact read_of_judge (content indexCheck (by simp [contentChecks])) _
  case presence => exact read_of_judge (content presenceCheck (by simp [contentChecks])) _
  case duplicates => exact read_of_judge (content duplicatesCheck (by simp [contentChecks])) _
  case references =>
    intro reference member
    exact read_of_judge (content _ (List.mem_append_right _ (List.mem_map_of_mem member))) _
  case registrar => exact registrar
  case privileges =>
    intro there guarded member
    have found : registrarCheck.found answers = [] := by
      rw [Check.found_of_judge (judge_of_read registrar _)]
      exact if_pos there
    apply read_of_judge
    apply reads (guardedCheck guarded)
    rw [contentRoute, if_pos found]
    exact List.mem_append_right _ (List.mem_append_right _ (List.mem_map_of_mem member))

end Reading

end Catalog

/-- What verification comes to when these are the answers. -/
structure Report {ε : Type} [OfFault ε] (answers : Answers) (result : Except ε (List SchemaProblem))
    (trace : List Event) : Prop where
  told : (∀ check ∈ route answers, check.Reads answers) →
    ∃ catalog : Catalog, catalog.RelationsIn answers ∧
      (catalog.relationFindings = [] → catalog.ContentIn answers)
  early : ∀ catalog : Catalog, catalog.RelationsIn answers → catalog.relationFindings ≠ [] →
    result = .ok catalog.relationFindings ∧
      trace = [.sent (.relationExists "hzrdr.imt"), .sent (.relationExists "hzrdr.gmf_rupture"),
        .sent (.relationExists "hzrdr.gmf_data")]
  /-- Where they do not, the report is what each check found, in order. -/
  whole : ∀ catalog : Catalog, catalog.RelationsIn answers → catalog.relationFindings = [] →
    catalog.ContentIn answers →
      result = .ok catalog.contentFindings ∧
        trace = (route answers).map (fun check => .sent check.statement) ++
          [.noted (verdict catalog.contentFindings)]
  conforms : result = .ok [] ↔ ∃ catalog : Catalog,
    catalog.RelationsIn answers ∧ catalog.ContentIn answers ∧
      ∀ problem, ¬catalog.RelationDeviates problem ∧ ¬catalog.ContentDeviates problem
  /-- The first answer that was refused or cannot be read is the last. -/
  refused : ∀ before check after fault, route answers = before ++ check :: after →
    (∀ earlier ∈ before, earlier.Reads answers) →
    check.judge (answers check.statement) = .error fault →
      result = .error (OfFault.ofFault fault) ∧
        trace = (before ++ [check]).map (fun check => .sent check.statement) ∧
        ∀ error, answers check.statement = .error error → fault = .server error

section Reports

variable {ε : Type} [OfFault ε] {answers : Answers} {catalog : Catalog}

theorem run_verify_early (told : catalog.RelationsIn answers)
    (deviates : catalog.relationFindings ≠ []) :
    (Session.ofDialogue (verify : Dialogue ε _)).run (.settled answers) () =
      ⟨.ok catalog.relationFindings, (),
        relationChecks.map (fun check => .sent check.statement)⟩ := by
  have shown := told.shows
  rw [← shown.found] at deviates ⊢
  rw [run_verify, route, if_neg deviates, if_neg deviates, List.append_nil,
    follow_of_reads shown.reads, List.append_nil]

theorem run_verify_whole (relations : catalog.RelationsIn answers)
    (conform : catalog.relationFindings = []) (content : catalog.ContentIn answers) :
    (Session.ofDialogue (verify : Dialogue ε _)).run (.settled answers) () =
      ⟨.ok catalog.contentFindings, (), (route answers).map (fun check => .sent check.statement) ++
        [.noted (verdict catalog.contentFindings)]⟩ := by
  have first := relations.shows
  rw [conform] at first
  have all := first.append content.shows
  have way : route answers = relationChecks ++ contentRoute answers := by
    rw [route, if_pos first.found]
  rw [← way] at all
  rw [run_verify, if_pos first.found, follow_of_reads all.reads, all.found]
  rfl

theorem exists_catalog (reads : ∀ check ∈ route answers, check.Reads answers) :
    ∃ catalog : Catalog, catalog.RelationsIn answers ∧
      (catalog.relationFindings = [] → catalog.ContentIn answers) := by
  have relations := Catalog.relationsIn_of_reads
    (fun check member => reads check (List.mem_append_left _ member))
  refine ⟨_, relations, ?_⟩
  intro conform
  apply Catalog.contentIn_of_reads
  intro check member
  apply reads
  rw [route, if_pos (relations.shows.found.trans conform)]
  exact List.mem_append_right _ member

theorem run_verify_conforms_iff :
    ((Session.ofDialogue (verify : Dialogue ε _)).run (.settled answers) ()).result = .ok [] ↔
      ∃ catalog : Catalog, catalog.RelationsIn answers ∧ catalog.ContentIn answers ∧
        ∀ problem, ¬catalog.RelationDeviates problem ∧ ¬catalog.ContentDeviates problem := by
  constructor
  · intro nothing
    have reads := nothing
    rw [run_verify] at reads
    obtain ⟨catalog, relations, content⟩ := exists_catalog (reads_of_follow reads)
    by_cases conform : catalog.relationFindings = []
    · rw [run_verify_whole relations conform (content conform)] at nothing
      exact ⟨catalog, relations, content conform,
        catalog.findings_eq_nil_iff.1 ⟨conform, Except.ok.inj nothing⟩⟩
    · rw [run_verify_early relations conform] at nothing
      exact absurd (Except.ok.inj nothing) conform
  · intro ⟨catalog, relations, content, sound⟩
    obtain ⟨conform, nothing⟩ := catalog.findings_eq_nil_iff.2 sound
    rw [run_verify_whole relations conform content, nothing]

theorem report_settled (answers : Answers) :
    Report answers ((Session.ofDialogue (verify : Dialogue ε _)).run (.settled answers) ()).result
      ((Session.ofDialogue (verify : Dialogue ε _)).run (.settled answers) ()).trace where
  told := exists_catalog
  early catalog told deviates := by
    rw [run_verify_early told deviates]
    exact ⟨rfl, rfl⟩
  whole catalog relations conform content := by
    rw [run_verify_whole relations conform content]
    exact ⟨rfl, rfl⟩
  conforms := run_verify_conforms_iff
  refused before check after fault way reads refused := by
    rw [run_verify, way, follow_of_refused reads refused]
    refine ⟨rfl, rfl, ?_⟩
    intro error answered
    rw [answered, check.refused] at refused
    exact (Except.error.inj refused).symm

end Reports

def strayAnswers : Answers
  | .relationExists name => .ok (.rows [(some (name != "hzrdr.gmf_data"), ())])
  | .sitesColumn => .ok (.rows [(some "_int4", some "NO", ())])
  | .fieldCascades =>
      .ok (.rows [(some "hzrdr.imt", ()), (some "hzrdr.gmf", ()), (some "hzrdr.imt", ())])
  | .measureChecks => .ok (.rows [(some "imt_sa_damping", ()), (some "imt_sa_period", ())])
  | .measureIndexExists _ => .ok (.rows [(some true, ())])
  | .presenceViolations => .ok (.rows [(some (0 : Int64), ())])
  | .duplicateMeasures => .ok (.rows [])
  | .referenceExists _ => .ok (.rows [(some true, ())])
  | .roleExists _ => .ok (.rows [(some false, ())])
  | _ => .error ⟨"XX000", "not expected"⟩

def strayCatalog : Catalog where
  tableThere _ := true
  retiredThere := false
  column? := some ⟨"_int4", "NO"⟩
  cascading := ["hzrdr.imt", "hzrdr.gmf", "hzrdr.imt"]
  checkNames := ["imt_sa_damping", "imt_sa_period"]
  indexThere := true
  violations := 0
  duplicates := []
  referenceThere _ := true
  registrarThere := false
  privileges _ := ⟨false, false, false, false, false⟩

end HazardStore.Schema
