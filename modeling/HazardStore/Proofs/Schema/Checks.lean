import HazardStore.Proofs.Schema.Findings
/-!
Verification as a list of checks. A check is one statement and a judgement of its answer alone; the
whole verification asks the checks of a route one after the other. How far the route goes depends on
two of its own checks: that of the relations and that of the role.
-/

namespace HazardStore.Schema

open Dialogue

/-- A statement and what its answer shows. A refusal shows nothing but itself. -/
structure Check where
  statement : Statement
  judge : Except ServerError (Reply statement) → Except Fault (List SchemaProblem)
  refused : ∀ error, judge (.error error) = .error (.server error)

namespace Check

section Kinds

variable {α : Type} (statement : Statement)

def first (decode : Decoder statement α) (findings : α → List SchemaProblem) : Check where
  statement := statement
  judge outcome := (firstOf decode outcome).map findings
  refused _ := rfl

def first? (decode : Decoder statement α) (findings : Option α → List SchemaProblem) : Check where
  statement := statement
  judge outcome := (firstOf? decode outcome).map findings
  refused _ := rfl

def all (decode : Decoder statement α) (findings : List α → List SchemaProblem) : Check where
  statement := statement
  judge outcome := (allOf decode outcome).map findings
  refused _ := rfl

end Kinds

/-- The answer was given and every cell that was looked at could be read. -/
def Reads (answers : Answers) (check : Check) : Prop :=
  ∃ found, check.judge (answers check.statement) = .ok found

def found (answers : Answers) (check : Check) : List SchemaProblem :=
  match check.judge (answers check.statement) with
  | .ok found => found
  | .error _ => []

theorem found_of_judge {answers : Answers} {check : Check} {problems : List SchemaProblem}
    (judged : check.judge (answers check.statement) = .ok problems) :
    check.found answers = problems := by
  unfold found
  rw [judged]

section Asking

variable {ε α : Type} [OfFault ε] {statement : Statement}

def ask (check : Check) : Dialogue ε (List SchemaProblem) :=
  .ask check.statement (fun outcome => decoded (check.judge outcome))

theorem ask_first (decode : Decoder statement α) (findings : α → List SchemaProblem) :
    ((first statement decode findings).ask : Dialogue ε _) =
      Dialogue.first statement decode >>= fun value => pure (findings value) := by
  rw [first_eq]
  exact congrArg (Dialogue.ask statement) (funext (fun _ => decoded_map _ findings))

theorem ask_first? (decode : Decoder statement α) (findings : Option α → List SchemaProblem) :
    ((first? statement decode findings).ask : Dialogue ε _) =
      Dialogue.first? statement decode >>= fun value? => pure (findings value?) := by
  rw [first?_eq]
  exact congrArg (Dialogue.ask statement) (funext (fun _ => decoded_map _ findings))

theorem ask_all (decode : Decoder statement α) (findings : List α → List SchemaProblem) :
    ((all statement decode findings).ask : Dialogue ε _) =
      Dialogue.all statement decode >>= fun values => pure (findings values) := by
  rw [all_eq]
  exact congrArg (Dialogue.ask statement) (funext (fun _ => decoded_map _ findings))

end Asking

end Check

def tableCheck (table : String) : Check :=
  .first (.relationExists table) decodeFlag (requiredTableFinding table)

def retiredTableCheck : Check :=
  .first (.relationExists retiredTable) decodeFlag retiredTableFinding

def relationChecks : List Check :=
  requiredTables.map tableCheck ++ [retiredTableCheck]

def referenceCheck (reference : ReferenceMeasure) : Check :=
  .first (.referenceExists reference) decodeFlag (referenceFinding reference)

def sitesColumnCheck : Check :=
  .first? .sitesColumn ColumnShape.decode sitesColumnFindings

def cascadeCheck : Check :=
  .all .fieldCascades decodeName cascadeFindings

def namesCheck : Check :=
  .all .measureChecks decodeName checkFindings

def indexCheck : Check :=
  .first (.measureIndexExists measureIndex) decodeFlag indexFinding

def presenceCheck : Check :=
  .first .presenceViolations decodeTotal presenceFinding

def duplicatesCheck : Check :=
  .all .duplicateMeasures DuplicateGroup.decode duplicateFindings

def contentChecks : List Check :=
  [sitesColumnCheck, cascadeCheck, namesCheck, indexCheck, presenceCheck, duplicatesCheck] ++
    ReferenceMeasure.seeds.map referenceCheck

def registrarCheck : Check :=
  .first (.roleExists registrar) decodeFlag registrarFinding

def guardedCheck (guarded : GuardedTable) : Check :=
  .first (.privileges registrar guarded.table guarded.sequence) Privileges.decode
    (privilegeFindings guarded)

def guardedChecks : List Check :=
  guardedTables.map guardedCheck

/-- The checks beyond the relations. Privileges are asked for only when there is a role to have
them. -/
def contentRoute (answers : Answers) : List Check :=
  contentChecks ++ ([registrarCheck] ++
    if registrarCheck.found answers = [] then guardedChecks else [])

/-- The checks that are asked when the server gives the answers. -/
def route (answers : Answers) : List Check :=
  relationChecks ++
    if relationChecks.flatMap (Check.found answers) = [] then contentRoute answers else []

section Gathering

variable {ε α : Type}

theorem gather_append (check : α → Dialogue ε (List SchemaProblem)) (first second : List α) :
    gather check (first ++ second) = (do
      let found ← gather check first
      let more ← gather check second
      return found ++ more) := by
  induction first with
  | nil => simp [gather]
  | cons subject others ih =>
      simp only [List.cons_append, gather, ih, bind_assoc, pure_bind, List.append_assoc]

theorem gather_map {β : Type} (check : β → Dialogue ε (List SchemaProblem)) (subject : α → β)
    (subjects : List α) :
    gather check (subjects.map subject) = gather (fun one => check (subject one)) subjects := by
  induction subjects with
  | nil => rfl
  | cons one others ih => rw [List.map_cons, gather, gather, ih]

theorem gather_singleton (check : α → Dialogue ε (List SchemaProblem)) (subject : α) :
    gather check [subject] = check subject := by
  simp [gather]

end Gathering

def verdict (problems : List SchemaProblem) : JournalEntry :=
  if problems.isEmpty then .schemaVerified else .schemaRejected problems.length

section Verification

variable {ε : Type} [OfFault ε]

theorem checkRelations_eq :
    (checkRelations : Dialogue ε (List SchemaProblem)) = gather Check.ask relationChecks := by
  have table (name : String) : ((tableCheck name).ask : Dialogue ε _) = _ := Check.ask_first _ _
  have retired : (retiredTableCheck.ask : Dialogue ε _) = _ := Check.ask_first _ _
  rw [relationChecks, gather_append, gather_map, gather_singleton, retired, funext table]
  simp only [bind_assoc, pure_bind]
  rfl

theorem checkSitesColumn_eq :
    (checkSitesColumn : Dialogue ε _) = sitesColumnCheck.ask :=
  (Check.ask_first? _ _).symm

theorem checkCascades_eq :
    (checkCascades : Dialogue ε _) = cascadeCheck.ask :=
  (Check.ask_all _ _).symm

theorem checkMeasureConstraints_eq :
    (checkMeasureConstraints : Dialogue ε _) = gather Check.ask [namesCheck, indexCheck] := by
  have names : (namesCheck.ask : Dialogue ε _) = _ := Check.ask_all _ _
  have index : (indexCheck.ask : Dialogue ε _) = _ := Check.ask_first _ _
  simp only [gather, names, index, bind_assoc, pure_bind, List.append_nil]
  rfl

theorem checkReference_eq (reference : ReferenceMeasure) :
    (checkReference reference : Dialogue ε _) = (referenceCheck reference).ask :=
  (Check.ask_first _ _).symm

theorem checkMeasureRows_eq :
    (checkMeasureRows : Dialogue ε _) = gather Check.ask
      ([presenceCheck, duplicatesCheck] ++ ReferenceMeasure.seeds.map referenceCheck) := by
  have presence : (presenceCheck.ask : Dialogue ε _) = _ := Check.ask_first _ _
  have duplicates : (duplicatesCheck.ask : Dialogue ε _) = _ := Check.ask_all _ _
  rw [gather_append, gather_map, ← funext checkReference_eq]
  simp only [gather, presence, duplicates, bind_assoc, pure_bind, List.append_nil]
  rfl

theorem checkGuarded_eq (guarded : GuardedTable) :
    (checkGuarded guarded : Dialogue ε _) = (guardedCheck guarded).ask :=
  (Check.ask_first _ _).symm

theorem checkPrivileges_eq :
    (checkPrivileges : Dialogue ε (List SchemaProblem)) = registrarCheck.ask >>= fun absent =>
      (if absent = [] then gather Check.ask guardedChecks else pure []) >>= fun found =>
        pure (absent ++ found) := by
  have registrars : (registrarCheck.ask : Dialogue ε _) = _ := Check.ask_first _ _
  rw [registrars, guardedChecks, gather_map, ← funext checkGuarded_eq]
  simp only [bind_assoc, pure_bind]
  apply congrArg (bind _)
  funext there
  cases there with
  | false => rfl
  | true => exact (bind_pure _).symm

theorem checkContent_eq :
    (checkContent : Dialogue ε _) = gather Check.ask contentChecks >>= fun content =>
      checkPrivileges >>= fun privileges => pure (content ++ privileges) := by
  have parts : contentChecks = [sitesColumnCheck] ++ ([cascadeCheck] ++ ([namesCheck, indexCheck] ++
      ([presenceCheck, duplicatesCheck] ++ ReferenceMeasure.seeds.map referenceCheck))) :=
    rfl
  rw [parts, gather_append, gather_append, gather_append, gather_singleton, gather_singleton,
    ← checkSitesColumn_eq, ← checkCascades_eq, ← checkMeasureConstraints_eq, ← checkMeasureRows_eq]
  simp only [checkContent, bind_assoc, pure_bind, List.append_assoc]

/-- What is done once all is known. -/
def report (problems : List SchemaProblem) : Dialogue ε (List SchemaProblem) :=
  .note (verdict problems) (.done problems)

theorem verify_eq :
    (verify : Dialogue ε (List SchemaProblem)) =
      gather Check.ask relationChecks >>= fun relations =>
        if relations = [] then
          gather Check.ask contentChecks >>= fun content =>
            registrarCheck.ask >>= fun absent =>
              (if absent = [] then gather Check.ask guardedChecks else pure []) >>= fun found =>
                report (content ++ (absent ++ found))
        else pure relations := by
  rw [verify, checkRelations_eq]
  apply congrArg (bind _)
  funext relations
  by_cases conform : relations = []
  · rw [if_pos conform, if_neg (not_not_intro conform), checkContent_eq, checkPrivileges_eq]
    simp only [bind_assoc, pure_bind]
    rfl
  · rw [if_neg conform, if_pos conform]

theorem asksOnce_ask_bind {α : Type} (check : Check)
    (continuation : List SchemaProblem → Dialogue ε α) {asked : List Statement}
    (new : check.statement ∉ asked)
    (later : ∀ found, (continuation found).AsksOnce (check.statement :: asked)) :
    (check.ask >>= continuation).AsksOnce asked := by
  refine ⟨new, ?_⟩
  intro outcome
  change ((decoded (check.judge outcome)).bind continuation).AsksOnce _
  cases check.judge outcome with
  | ok found => exact later found
  | error fault => trivial

theorem asksOnce_gather_bind {α : Type} (checks : List Check)
    (continuation : List SchemaProblem → Dialogue ε α) {asked : List Statement}
    (distinct : (checks.map Check.statement ++ asked).Nodup)
    (later : ∀ found, (continuation found).AsksOnce (checks.map Check.statement ++ asked)) :
    (gather Check.ask checks >>= continuation).AsksOnce asked := by
  induction checks generalizing continuation asked with
  | nil => exact later []
  | cons check others ih =>
      obtain ⟨new, others_distinct⟩ := List.nodup_cons.1 distinct
      have moved : (others.map Check.statement ++ check.statement :: asked).Perm
          (check.statement :: (others.map Check.statement ++ asked)) :=
        List.perm_middle
      rw [gather, bind_assoc]
      apply asksOnce_ask_bind check _ (fun member => new (List.mem_append_right _ member))
      intro found
      rw [bind_assoc]
      apply ih _ (moved.nodup_iff.2 distinct)
      intro more
      exact (later (found ++ more)).of_subset moved.subset

theorem statements_distinct :
    (guardedChecks.map Check.statement ++ ([registrarCheck].map Check.statement ++
      (contentChecks.map Check.statement ++
        (relationChecks.map Check.statement ++ [])))).Nodup := by
  decide

theorem verify_asksOnce : (verify : Dialogue ε (List SchemaProblem)).AsksOnce [] := by
  have asked_registrar := (List.nodup_append.1 statements_distinct).2.1
  have asked_content := (List.nodup_append.1 asked_registrar).2.1
  have asked_relations := (List.nodup_append.1 asked_content).2.1
  rw [verify_eq]
  apply asksOnce_gather_bind _ _ asked_relations
  intro relations
  by_cases conform : relations = []
  · rw [if_pos conform]
    apply asksOnce_gather_bind _ _ asked_content
    intro content
    rw [← gather_singleton Check.ask registrarCheck]
    apply asksOnce_gather_bind _ _ asked_registrar
    intro absent
    by_cases there : absent = []
    · rw [if_pos there]
      exact asksOnce_gather_bind _ _ statements_distinct (fun _ => trivial)
    · rw [if_neg there]
      trivial
  · rw [if_neg conform]
    trivial

end Verification

end HazardStore.Schema
