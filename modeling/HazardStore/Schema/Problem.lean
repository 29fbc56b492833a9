import HazardStore.Double.Printer
import HazardStore.Identifier
/-!
Deviations of a database from the schema that the migrations leave behind.
-/

namespace HazardStore

inductive SchemaProblem where
  | tableMissing (table : String)
  | retiredTable
  | sitesColumnMissing
  | sitesColumnType (found : String)
  | sitesColumnRequired
  | cascadeMissing (parent : String)
  | checkMissing (name : String)
  | indexMissing (name : String)
  /-- So many rows carry components that their code does not admit, or lack some that it needs. -/
  | presenceViolated (rows : Int64)
  | duplicates (code : String) (period? damping? : Option Double) (rows : Int64)
  | referenceMissing (text : String)
  | roleMissing (role : String)
  | cannotRegister (role table : String)
  | canAlter (role table : String)
  | sequenceUnusable (role sequence : String)
deriving DecidableEq

namespace SchemaProblem

def optionalNumberText : Option Double → String
  | none => "None"
  | some value => "Some(" ++ String.ofList value.reportText ++ ")"

def message : SchemaProblem → String
  | .tableMissing table => table ++ " is missing"
  | .retiredTable => "legacy table hzrdr.gmf_data still exists"
  | .sitesColumnMissing => "hzrdr.probabilistic_rupture.site_indices is missing"
  | .sitesColumnType found =>
      "hzrdr.probabilistic_rupture.site_indices should be INTEGER[], got " ++ found
  | .sitesColumnRequired => "hzrdr.probabilistic_rupture.site_indices should be nullable"
  | .cascadeMissing parent =>
      "hzrdr.gmf_rupture has no ON DELETE CASCADE foreign key to " ++ parent
  | .checkMissing name => "hzrdr.imt is missing CHECK constraint " ++ name
  | .indexMissing name => "hzrdr.imt is missing unique index " ++ name
  | .presenceViolated rows =>
      toString rows ++ " hzrdr.imt rows break the SA period/damping presence rule"
  | .duplicates code period? damping? rows =>
      toString rows ++ " hzrdr.imt rows share im_type " ++ code ++ ", sa_period " ++
        optionalNumberText period? ++ ", sa_damping " ++ optionalNumberText damping?
  | .referenceMissing text => "seed intensity measure type " ++ text ++ " is missing"
  | .roleMissing role => "role " ++ role ++ " does not exist"
  | .cannotRegister role table => role ++ " must be able to SELECT and INSERT on " ++ table
  | .canAlter role table => role ++ " must not UPDATE or DELETE on " ++ table
  | .sequenceUnusable role sequence => role ++ " lacks USAGE on " ++ sequence

end SchemaProblem

end HazardStore
