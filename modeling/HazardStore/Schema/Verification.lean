import HazardStore.Schema.Problem
import HazardStore.Session.Dialogue
/-!
Verification of a migrated schema. Each check asks its own questions and judges their answers by a
function of those answers alone; the report is what the checks found, in a fixed order. While tables
are missing, or the retired one is there, nothing else is asked.
-/

namespace HazardStore.Schema

open Dialogue

def requiredTables : List String :=
  ["hzrdr.imt", "hzrdr.gmf_rupture"]

def retiredTable : String :=
  "hzrdr.gmf_data"

def fieldParents : List String :=
  ["hzrdr.gmf", "hzrdr.imt", "hzrdr.ses_rupture"]

def presenceChecks : List String :=
  ["imt_sa_period", "imt_sa_damping"]

/-- The index that keeps measures distinct, absent components included. -/
def measureIndex : String :=
  "uq_imt_type_period_damping"

def registrar : String :=
  "oq_job_init"

structure GuardedTable where
  table : String
  sequence : String
deriving DecidableEq

/-- The tables that the role may read and add to, with the sequences that number their rows. -/
def guardedTables : List GuardedTable :=
  [⟨"hzrdr.imt", "hzrdr.imt_id_seq"⟩, ⟨"hzrdr.gmf_rupture", "hzrdr.gmf_rupture_id_seq"⟩]

structure ColumnShape where
  typeName : String
  nullable : String
deriving DecidableEq

structure DuplicateGroup where
  code : String
  period? : Option Double
  damping? : Option Double
  rows : Int64
deriving DecidableEq

structure Privileges where
  select : Bool
  insert : Bool
  update : Bool
  delete : Bool
  nextValue : Bool
deriving DecidableEq

def decodeFlag : Cells [.boolean] → Except Fault Bool :=
  single

def decodeName : Cells [.text] → Except Fault String :=
  single

def decodeTotal : Cells [.bigInteger] → Except Fault Int64 :=
  single

def ColumnShape.decode : Cells [.text, .text] → Except Fault ColumnShape
  | (typeName, nullable, ()) => do
      let typeName ← required (.numbered 0) typeName
      let nullable ← required (.numbered 1) nullable
      return { typeName, nullable }

def DuplicateGroup.decode :
    Cells [.text, .double, .double, .bigInteger] → Except Fault DuplicateGroup
  | (code, period?, damping?, rows, ()) => do
      let code ← required (.numbered 0) code
      let rows ← required (.numbered 3) rows
      return { code, period?, damping?, rows }

def Privileges.decode :
    Cells [.boolean, .boolean, .boolean, .boolean, .boolean] → Except Fault Privileges
  | (select, insert, update, delete, nextValue, ()) => do
      let select ← required (.numbered 0) select
      let insert ← required (.numbered 1) insert
      let update ← required (.numbered 2) update
      let delete ← required (.numbered 3) delete
      let nextValue ← required (.numbered 4) nextValue
      return { select, insert, update, delete, nextValue }

/-! ### Findings -/

def requiredTableFinding (table : String) (there : Bool) : List SchemaProblem :=
  if there then [] else [.tableMissing table]

def retiredTableFinding (there : Bool) : List SchemaProblem :=
  if there then [.retiredTable] else []

/-- The site indices of a rupture are an array of integers that may be null. -/
def sitesColumnFindings : Option ColumnShape → List SchemaProblem
  | none => [.sitesColumnMissing]
  | some shape =>
      (if shape.typeName = "_int4" then [] else [.sitesColumnType shape.typeName]) ++
        (if shape.nullable = "YES" then [] else [.sitesColumnRequired])

def cascadeFindings (parents : List String) : List SchemaProblem :=
  (fieldParents.filter (fun parent => !parents.contains parent)).map .cascadeMissing

def checkFindings (names : List String) : List SchemaProblem :=
  (presenceChecks.filter (fun name => !names.contains name)).map .checkMissing

def indexFinding (there : Bool) : List SchemaProblem :=
  if there then [] else [.indexMissing measureIndex]

def presenceFinding (violations : Int64) : List SchemaProblem :=
  if 0 < violations then [.presenceViolated violations] else []

def duplicateFindings (groups : List DuplicateGroup) : List SchemaProblem :=
  groups.map (fun group => .duplicates group.code group.period? group.damping? group.rows)

def referenceFinding (reference : ReferenceMeasure) (there : Bool) : List SchemaProblem :=
  if there then [] else [.referenceMissing reference.text]

def privilegeFindings (guarded : GuardedTable) (privileges : Privileges) : List SchemaProblem :=
  (if privileges.select && privileges.insert then []
    else [.cannotRegister registrar guarded.table]) ++
    (if privileges.update || privileges.delete then [.canAlter registrar guarded.table] else []) ++
    (if privileges.nextValue then [] else [.sequenceUnusable registrar guarded.sequence])

section Checks

variable {ε : Type} [OfFault ε]

/-- One check after the other; what they found is put together in the same order. -/
def gather {α : Type} (check : α → Dialogue ε (List SchemaProblem)) :
    List α → Dialogue ε (List SchemaProblem)
  | [] => return []
  | subject :: others => do
      let found ← check subject
      let more ← gather check others
      return found ++ more

def checkRelations : Dialogue ε (List SchemaProblem) := do
  let missing ← gather (fun table => do
    return requiredTableFinding table (← first (.relationExists table) decodeFlag)) requiredTables
  return missing ++ retiredTableFinding (← first (.relationExists retiredTable) decodeFlag)

def checkSitesColumn : Dialogue ε (List SchemaProblem) := do
  return sitesColumnFindings (← first? .sitesColumn ColumnShape.decode)

def checkCascades : Dialogue ε (List SchemaProblem) := do
  return cascadeFindings (← all .fieldCascades decodeName)

def checkMeasureConstraints : Dialogue ε (List SchemaProblem) := do
  let unchecked := checkFindings (← all .measureChecks decodeName)
  return unchecked ++ indexFinding (← first (.measureIndexExists measureIndex) decodeFlag)

def checkReference (reference : ReferenceMeasure) : Dialogue ε (List SchemaProblem) := do
  return referenceFinding reference (← first (.referenceExists reference) decodeFlag)

def checkMeasureRows : Dialogue ε (List SchemaProblem) := do
  let violated := presenceFinding (← first .presenceViolations decodeTotal)
  let repeated := duplicateFindings (← all .duplicateMeasures DuplicateGroup.decode)
  let absent ← gather checkReference ReferenceMeasure.seeds
  return violated ++ repeated ++ absent

def checkGuarded (guarded : GuardedTable) : Dialogue ε (List SchemaProblem) := do
  return privilegeFindings guarded
    (← first (.privileges registrar guarded.table guarded.sequence) Privileges.decode)

def checkPrivileges : Dialogue ε (List SchemaProblem) := do
  if ← first (.roleExists registrar) decodeFlag then gather checkGuarded guardedTables
  else return [.roleMissing registrar]

def checkContent : Dialogue ε (List SchemaProblem) := do
  let column ← checkSitesColumn
  let cascades ← checkCascades
  let constraints ← checkMeasureConstraints
  let rows ← checkMeasureRows
  let privileges ← checkPrivileges
  return column ++ cascades ++ constraints ++ rows ++ privileges

/-- The deviations of a database from the migrated schema; none means that it conforms. -/
def verify : Dialogue ε (List SchemaProblem) := do
  let relations ← checkRelations
  if relations ≠ [] then return relations
  let problems ← checkContent
  log (if problems.isEmpty then .schemaVerified else .schemaRejected problems.length)
  return problems

end Checks

end HazardStore.Schema
