import HazardStore.Program.Command
import HazardStore.Program.Settings
import HazardStore.Proofs.Text.Shown
import HazardStore.Store.Error
import Mathlib.Data.List.Nodup
/-!
What the messages of errors show. Every message shows all that its error carries for it, in a fixed
order: codes, names and texts as they stand, numbers as they are printed. Errors that carry nothing
are told apart by their words.
-/

namespace HazardStore

open Text

namespace Violation

def shown : Violation → List String
  | .unknownKind code => code :: MeasureKind.all.map MeasureKind.code
  | .notPositive component value => [component.name, quoted value]
  | .componentAbsent code => [code]
  | .componentPresent code => [code]
  | .unreadableParameters text => [text]
  | .valueNotFinite value => [quoted value]
  | .lengthMismatch values sites => [toString values, toString sites]
  | .negativeSite site => [toString site]
  | _ => []

theorem reason_carries (violation : Violation) : Carries violation.shown violation.reason := by
  cases violation with
  | unknownKind code =>
      exact (Carries.plain _).part code |>.followed _ |>.append (Carries.intercalate _ _)
  | componentsRequired => exact Carries.plain _
  | notPositive component value =>
      exact (Carries.self component.name).followed _ |>.part (quoted value) |>.followed _
  | componentAbsent code => exact (Carries.self code).followed _
  | componentPresent code => exact (Carries.self code).followed _
  | unreadableParameters text => exact ((Carries.plain _).part text).followed _
  | periodOmitted => exact Carries.plain _
  | emptyField => exact Carries.plain _
  | valueNotFinite value => exact ((Carries.plain _).part (quoted value)).followed _
  | lengthMismatch values sites =>
      exact (Carries.plain _).part (toString values) |>.followed _ |>.part (toString sites)
        |>.followed _
  | negativeSite site => exact ((Carries.plain _).part (toString site)).followed _
  | repeatedSites => exact Carries.plain _

theorem message_carries (violation : Violation) : Carries violation.shown violation.message :=
  (Carries.plain _).append violation.reason_carries

def bare : List Violation :=
  [.componentsRequired, .periodOmitted, .emptyField, .repeatedSites]

theorem mem_bare_of_shown {violation : Violation} (nothing : violation.shown = []) :
    violation ∈ bare := by
  cases violation with
  | componentsRequired => decide
  | periodOmitted => decide
  | emptyField => decide
  | repeatedSites => decide
  | _ => cases nothing

/-- Violations that bring nothing into their messages are told apart by the words. -/
theorem reason_injOn_bare {left right : Violation} (leftBare : left.shown = [])
    (rightBare : right.shown = []) (same : left.reason = right.reason) : left = right := by
  have distinct : (bare.map reason).Nodup := by decide
  exact List.inj_on_of_nodup_map distinct (mem_bare_of_shown leftBare)
    (mem_bare_of_shown rightBare) same

end Violation

namespace SchemaProblem

def shown : SchemaProblem → List String
  | .tableMissing table => [table]
  | .sitesColumnType found => [found]
  | .cascadeMissing parent => [parent]
  | .checkMissing name => [name]
  | .indexMissing name => [name]
  | .presenceViolated rows => [toString rows]
  | .duplicates code period? damping? rows =>
      [toString rows, code, optionalNumberText period?, optionalNumberText damping?]
  | .referenceMissing text => [text]
  | .roleMissing role => [role]
  | .cannotRegister role table => [role, table]
  | .canAlter role table => [role, table]
  | .sequenceUnusable role sequence => [role, sequence]
  | _ => []

theorem message_carries (problem : SchemaProblem) : Carries problem.shown problem.message := by
  cases problem with
  | tableMissing table => exact (Carries.self table).followed _
  | retiredTable => exact Carries.plain _
  | sitesColumnMissing => exact Carries.plain _
  | sitesColumnType found => exact (Carries.plain _).part found
  | sitesColumnRequired => exact Carries.plain _
  | cascadeMissing parent => exact (Carries.plain _).part parent
  | checkMissing name => exact (Carries.plain _).part name
  | indexMissing name => exact (Carries.plain _).part name
  | presenceViolated rows => exact (Carries.self (toString rows)).followed _
  | duplicates code period? damping? rows =>
      exact (Carries.self (toString rows)).followed _ |>.part code |>.followed _
        |>.part (optionalNumberText period?) |>.followed _ |>.part (optionalNumberText damping?)
  | referenceMissing text => exact ((Carries.plain _).part text).followed _
  | roleMissing role => exact ((Carries.plain _).part role).followed _
  | cannotRegister role table => exact ((Carries.self role).followed _).part table
  | canAlter role table => exact ((Carries.self role).followed _).part table
  | sequenceUnusable role sequence => exact ((Carries.self role).followed _).part sequence

def bare : List SchemaProblem :=
  [.retiredTable, .sitesColumnMissing, .sitesColumnRequired]

theorem mem_bare_of_shown {problem : SchemaProblem} (nothing : problem.shown = []) :
    problem ∈ bare := by
  cases problem with
  | retiredTable => decide
  | sitesColumnMissing => decide
  | sitesColumnRequired => decide
  | _ => cases nothing

theorem message_injOn_bare {left right : SchemaProblem} (leftBare : left.shown = [])
    (rightBare : right.shown = []) (same : left.message = right.message) : left = right := by
  have distinct : (bare.map message).Nodup := by decide
  exact List.inj_on_of_nodup_map distinct (mem_bare_of_shown leftBare)
    (mem_bare_of_shown rightBare) same

end SchemaProblem

def Fault.shown : Fault → List String
  | .server error => [error.message]
  | .noRow => []
  | .unexpectedNull column => [columnText column]

theorem Fault.message_carries (fault : Fault) : Carries fault.shown fault.message := by
  cases fault with
  | server error => exact (Carries.plain _).part error.message
  | noRow => exact Carries.plain _
  | unexpectedNull column =>
      exact (((Carries.plain _).part (columnText column)).followed _).followed _

def StoreError.shown : StoreError → List String
  | .invalid violation => violation.shown
  | .conflict (.fieldsStored rupture count) => [toString rupture, toString count]
  | .conflict (.textTaken text) => [text]
  | .database fault => fault.shown

theorem StoreError.message_carries (error : StoreError) : Carries error.shown error.message := by
  cases error with
  | invalid violation => exact violation.message_carries
  | conflict cause =>
      cases cause with
      | fieldsStored rupture count =>
          exact (Carries.plain _).append ((Carries.plain _).part (toString rupture) |>.followed _
            |>.part (toString count) |>.followed _)
      | textTaken text =>
          exact (Carries.plain _).append (((Carries.plain _).part text).followed _)
  | database fault => exact (Carries.plain _).append fault.message_carries

def MigrationError.shown : MigrationError → List String
  | .unfinished version => [toString version]
  | .unknown version => [toString version]
  | .altered version => [toString version]
  | .refused version fault => toString version :: fault.shown
  | .database fault => fault.shown

theorem MigrationError.message_carries (error : MigrationError) :
    Carries error.shown error.message := by
  cases error with
  | unfinished version => exact ((Carries.plain _).part (toString version)).followed _
  | unknown version => exact ((Carries.plain _).part (toString version)).followed _
  | altered version => exact ((Carries.plain _).part (toString version)).followed _
  | refused version fault =>
      exact (Carries.plain _).part (toString version) |>.followed _
        |>.append fault.message_carries
  | database fault => exact (Carries.plain _).append fault.message_carries

def SettingsError.shown : SettingsError → List String
  | .missing setting => [setting.name]
  | .invalid setting value => [setting.name, setting.expected, value]

theorem SettingsError.message_carries (error : SettingsError) :
    Carries error.shown error.message := by
  cases error with
  | missing setting => exact (Carries.self setting.name).followed _
  | invalid setting value =>
      exact (Carries.self setting.name).followed _ |>.part setting.expected |>.followed _
        |>.part value |>.followed _

/-- Every problem of a schema is printed, in the order of the report. -/
theorem CommandFailure.printed_carries (problems : List SchemaProblem) :
    Carries (problems.map SchemaProblem.message) (printed (.nonconforming problems)) := by
  change Carries _ (String.join (problems.map (fun problem => "FAIL " ++ problem.message ++ "\n")))
  induction problems with
  | nil => exact Carries.plain _
  | cons problem others ih =>
      rw [List.map_cons, List.map_cons, String.join_cons]
      exact (((Carries.plain _).part problem.message).followed _).append ih

end HazardStore
