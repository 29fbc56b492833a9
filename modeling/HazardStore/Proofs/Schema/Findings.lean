import HazardStore.Proofs.Session.Answers
import HazardStore.Schema.Verification
/-!
What verification finds in a database. The answers of a server, once they are read, tell of a
database, and each check finds its problems in what the answers to its own statement tell. What is
found is exactly what deviates: each problem says something of the database, and it is reported when
that is so.
-/

namespace HazardStore.Schema

open Dialogue

def registrarFinding (there : Bool) : List SchemaProblem :=
  if there then [] else [.roleMissing registrar]

/-- What the answers of a server, once read, tell of a database. -/
structure Catalog where
  tableThere : String → Bool
  retiredThere : Bool
  column? : Option ColumnShape
  cascading : List String
  checkNames : List String
  indexThere : Bool
  violations : Int64
  duplicates : List DuplicateGroup
  referenceThere : ReferenceMeasure → Bool
  registrarThere : Bool
  privileges : GuardedTable → Privileges

namespace Catalog

structure RelationsIn (answers : Answers) (catalog : Catalog) : Prop where
  table : ∀ table ∈ requiredTables,
    answers.first (.relationExists table) decodeFlag = .ok (catalog.tableThere table)
  retired : answers.first (.relationExists retiredTable) decodeFlag = .ok catalog.retiredThere

/-- Privileges are told of a role that is there. -/
structure ContentIn (answers : Answers) (catalog : Catalog) : Prop where
  column : answers.first? .sitesColumn ColumnShape.decode = .ok catalog.column?
  cascades : answers.all .fieldCascades decodeName = .ok catalog.cascading
  names : answers.all .measureChecks decodeName = .ok catalog.checkNames
  index : answers.first (.measureIndexExists measureIndex) decodeFlag = .ok catalog.indexThere
  presence : answers.first .presenceViolations decodeTotal = .ok catalog.violations
  duplicates : answers.all .duplicateMeasures DuplicateGroup.decode = .ok catalog.duplicates
  references : ∀ reference ∈ ReferenceMeasure.seeds,
    answers.first (.referenceExists reference) decodeFlag = .ok (catalog.referenceThere reference)
  registrar : answers.first (.roleExists registrar) decodeFlag = .ok catalog.registrarThere
  privileges : catalog.registrarThere = true → ∀ guarded ∈ guardedTables,
    answers.first (.privileges Schema.registrar guarded.table guarded.sequence) Privileges.decode =
      .ok (catalog.privileges guarded)

def relationFindings (catalog : Catalog) : List SchemaProblem :=
  requiredTables.flatMap (fun table => requiredTableFinding table (catalog.tableThere table)) ++
    retiredTableFinding catalog.retiredThere

def contentFindings (catalog : Catalog) : List SchemaProblem :=
  sitesColumnFindings catalog.column? ++
    cascadeFindings catalog.cascading ++
    checkFindings catalog.checkNames ++
    indexFinding catalog.indexThere ++
    presenceFinding catalog.violations ++
    duplicateFindings catalog.duplicates ++
    ReferenceMeasure.seeds.flatMap (fun reference =>
      referenceFinding reference (catalog.referenceThere reference)) ++
    registrarFinding catalog.registrarThere ++
    if catalog.registrarThere then
      guardedTables.flatMap (fun guarded => privilegeFindings guarded (catalog.privileges guarded))
    else []

/-! What each problem says of the database that it is reported of. -/

def RelationDeviates (catalog : Catalog) : SchemaProblem → Prop
  | .tableMissing table => table ∈ requiredTables ∧ catalog.tableThere table = false
  | .retiredTable => catalog.retiredThere = true
  | _ => False

def ContentDeviates (catalog : Catalog) : SchemaProblem → Prop
  | .tableMissing _ => False
  | .retiredTable => False
  | .sitesColumnMissing => catalog.column? = none
  | .sitesColumnType found =>
      ∃ shape, catalog.column? = some shape ∧ shape.typeName = found ∧ found ≠ "_int4"
  | .sitesColumnRequired => ∃ shape, catalog.column? = some shape ∧ shape.nullable ≠ "YES"
  | .cascadeMissing parent => parent ∈ fieldParents ∧ parent ∉ catalog.cascading
  | .checkMissing name => name ∈ presenceChecks ∧ name ∉ catalog.checkNames
  | .indexMissing name => name = measureIndex ∧ catalog.indexThere = false
  | .presenceViolated rows => rows = catalog.violations ∧ 0 < rows
  | .duplicates code period? damping? rows => ⟨code, period?, damping?, rows⟩ ∈ catalog.duplicates
  | .referenceMissing text =>
      ∃ reference ∈ ReferenceMeasure.seeds, reference.text = text ∧
        catalog.referenceThere reference = false
  | .roleMissing role => role = registrar ∧ catalog.registrarThere = false
  | .cannotRegister role table =>
      role = registrar ∧ catalog.registrarThere = true ∧
        ∃ guarded ∈ guardedTables, guarded.table = table ∧
          ((catalog.privileges guarded).select = false ∨
            (catalog.privileges guarded).insert = false)
  | .canAlter role table =>
      role = registrar ∧ catalog.registrarThere = true ∧
        ∃ guarded ∈ guardedTables, guarded.table = table ∧
          ((catalog.privileges guarded).update = true ∨ (catalog.privileges guarded).delete = true)
  | .sequenceUnusable role sequence =>
      role = registrar ∧ catalog.registrarThere = true ∧
        ∃ guarded ∈ guardedTables, guarded.sequence = sequence ∧
          (catalog.privileges guarded).nextValue = false

theorem mem_requiredTableFinding {problem : SchemaProblem} {table : String} {there : Bool} :
    problem ∈ requiredTableFinding table there ↔ problem = .tableMissing table ∧ there = false := by
  cases there <;> simp [requiredTableFinding]

theorem mem_retiredTableFinding {problem : SchemaProblem} {there : Bool} :
    problem ∈ retiredTableFinding there ↔ problem = .retiredTable ∧ there = true := by
  cases there <;> simp [retiredTableFinding]

theorem mem_sitesColumnFindings {problem : SchemaProblem} {column? : Option ColumnShape} :
    problem ∈ sitesColumnFindings column? ↔
      (problem = .sitesColumnMissing ∧ column? = none) ∨
      ∃ shape, column? = some shape ∧
        ((problem = .sitesColumnType shape.typeName ∧ shape.typeName ≠ "_int4") ∨
          (problem = .sitesColumnRequired ∧ shape.nullable ≠ "YES")) := by
  cases column? with
  | none => simp [sitesColumnFindings]
  | some shape =>
      simp only [sitesColumnFindings, List.mem_append]
      split <;> split <;> simp_all

theorem mem_cascadeFindings {problem : SchemaProblem} {parents : List String} :
    problem ∈ cascadeFindings parents ↔
      ∃ parent ∈ fieldParents, parent ∉ parents ∧ .cascadeMissing parent = problem := by
  simp [cascadeFindings, and_assoc]

theorem mem_checkFindings {problem : SchemaProblem} {names : List String} :
    problem ∈ checkFindings names ↔
      ∃ name ∈ presenceChecks, name ∉ names ∧ .checkMissing name = problem := by
  simp [checkFindings, and_assoc]

theorem mem_indexFinding {problem : SchemaProblem} {there : Bool} :
    problem ∈ indexFinding there ↔ problem = .indexMissing measureIndex ∧ there = false := by
  cases there <;> simp [indexFinding]

theorem mem_presenceFinding {problem : SchemaProblem} {violations : Int64} :
    problem ∈ presenceFinding violations ↔
      problem = .presenceViolated violations ∧ 0 < violations := by
  unfold presenceFinding
  split <;> simp_all

theorem mem_referenceFinding {problem : SchemaProblem} {reference : ReferenceMeasure}
    {there : Bool} : problem ∈ referenceFinding reference there ↔
      problem = .referenceMissing reference.text ∧ there = false := by
  cases there <;> simp [referenceFinding]

theorem mem_registrarFinding {problem : SchemaProblem} {there : Bool} :
    problem ∈ registrarFinding there ↔ problem = .roleMissing registrar ∧ there = false := by
  cases there <;> simp [registrarFinding]

theorem mem_privilegeFindings {problem : SchemaProblem} {guarded : GuardedTable}
    {privileges : Privileges} :
    problem ∈ privilegeFindings guarded privileges ↔
      (problem = .cannotRegister registrar guarded.table ∧
        (privileges.select = false ∨ privileges.insert = false)) ∨
      (problem = .canAlter registrar guarded.table ∧
        (privileges.update = true ∨ privileges.delete = true)) ∨
      (problem = .sequenceUnusable registrar guarded.sequence ∧ privileges.nextValue = false) := by
  obtain ⟨select, insert, update, delete, nextValue⟩ := privileges
  cases select <;> cases insert <;> cases update <;> cases delete <;> cases nextValue <;>
    simp [privilegeFindings]

theorem mem_relationFindings (catalog : Catalog) (problem : SchemaProblem) :
    problem ∈ catalog.relationFindings ↔ catalog.RelationDeviates problem := by
  simp only [relationFindings, List.mem_append, List.mem_flatMap, mem_requiredTableFinding,
    mem_retiredTableFinding]
  cases problem with
  | tableMissing table => simp [RelationDeviates, and_left_comm]
  | _ => simp [RelationDeviates]

theorem mem_contentFindings (catalog : Catalog) (problem : SchemaProblem) :
    problem ∈ catalog.contentFindings ↔ catalog.ContentDeviates problem := by
  have privileged : problem ∈ (if catalog.registrarThere then
      guardedTables.flatMap (fun guarded => privilegeFindings guarded (catalog.privileges guarded))
    else []) ↔ catalog.registrarThere = true ∧ ∃ guarded ∈ guardedTables,
        problem ∈ privilegeFindings guarded (catalog.privileges guarded) := by
    cases catalog.registrarThere <;> simp
  simp only [contentFindings, List.mem_append, List.mem_flatMap, privileged,
    mem_sitesColumnFindings, mem_cascadeFindings, mem_checkFindings, mem_indexFinding,
    mem_presenceFinding, duplicateFindings, List.mem_map, mem_referenceFinding,
    mem_registrarFinding, mem_privilegeFindings]
  clear privileged
  cases problem with
  | duplicates code period? damping? rows =>
      have grouped : (∃ group ∈ catalog.duplicates,
          SchemaProblem.duplicates group.code group.period? group.damping? group.rows =
            .duplicates code period? damping? rows) ↔
          ⟨code, period?, damping?, rows⟩ ∈ catalog.duplicates := by
        constructor
        · intro ⟨group, member, same⟩
          cases same
          exact member
        · intro member
          exact ⟨_, member, rfl⟩
      simpa [ContentDeviates] using grouped
  | _ => simp [ContentDeviates] <;> grind

theorem findings_eq_nil_iff (catalog : Catalog) :
    catalog.relationFindings = [] ∧ catalog.contentFindings = [] ↔
      ∀ problem, ¬catalog.RelationDeviates problem ∧ ¬catalog.ContentDeviates problem := by
  simp only [List.eq_nil_iff_forall_not_mem, catalog.mem_relationFindings,
    catalog.mem_contentFindings, forall_and]

end Catalog

end HazardStore.Schema
