import HazardStore.Measure.Reference
import HazardStore.Migration.Known
import HazardStore.Record
import HazardStore.Server.Column
/-!
The statements that the store sends: a closed list. The text of a statement is fixed by its
constructor; what the caller brings travels in the parameters alone.
-/

namespace HazardStore

inductive Statement where
  | ping
  /- Intensity measures. -/
  | listMeasures
  | measureById (id : RecordId)
  | measureByComponents (code : String) (period? damping? : Option Double)
  | registerMeasure (text code : String) (period? damping? : Option Double)
  | seedMeasure (reference : ReferenceMeasure)
  /- Field containers. -/
  | insertContainer (request : NewContainer)
  | containerById (id : RecordId)
  | deleteContainer (id : RecordId)
  /- Ruptures. -/
  | insertRupture (request : NewRupture)
  | ruptureById (id : RecordId)
  | lockSites (rupture : RecordId)
  | countFields (rupture : RecordId)
  | updateSites (rupture : RecordId) (sites : List SiteId)
  | deleteRupture (id : RecordId)
  /- Event ruptures. -/
  | insertEvent (request : NewEvent)
  | eventById (id : RecordId)
  | deleteEvent (id : RecordId)
  /- Fields. -/
  | shareSites (event : RecordId)
  | insertField (request : NewField)
  | fieldById (id : RecordId)
  | fieldsOfContainer (container : RecordId)
  | fieldsOfEvent (event : RecordId)
  | fieldsAtSite (container measure : RecordId) (site : SiteId)
  /- Migration history. -/
  | historyExists
  | history
  | failedMigration
  | recordedChecksums
  | applyMigration (migration : Migration)
  | recordMigration (migration : Migration)
  /- The catalog. -/
  | relationExists (name : String)
  | sitesColumn
  | fieldCascades
  | measureChecks
  | measureIndexExists (name : String)
  | presenceViolations
  | duplicateMeasures
  | referenceExists (reference : ReferenceMeasure)
  | roleExists (name : String)
  | privileges (role table sequence : String)
deriving DecidableEq

namespace Statement

abbrev measureColumns : List ColumnType :=
  [.bigInteger, .text, .text, .double, .double]

abbrev containerColumns : List ColumnType :=
  [.bigInteger, .text, .timestamp]

abbrev ruptureColumns : List ColumnType :=
  [.bigInteger, .double, .double, .text, .boolean, .integers, .timestamp]

abbrev eventColumns : List ColumnType :=
  [.bigInteger, .bigInteger, .integer, .text, .integer, .timestamp]

abbrev fieldColumns : List ColumnType :=
  [.bigInteger, .bigInteger, .bigInteger, .bigInteger, .doubles]

abbrev historyColumns : List ColumnType :=
  [.bigInteger, .text, .timestamp, .boolean]

def columns : Statement → List ColumnType
  | .ping => []
  | .listMeasures => measureColumns
  | .measureById _ => measureColumns
  | .measureByComponents _ _ _ => measureColumns
  | .registerMeasure _ _ _ _ => measureColumns
  | .seedMeasure _ => []
  | .insertContainer _ => containerColumns
  | .containerById _ => containerColumns
  | .deleteContainer _ => []
  | .insertRupture _ => ruptureColumns
  | .ruptureById _ => ruptureColumns
  | .lockSites _ => [.integers]
  | .countFields _ => [.bigInteger]
  | .updateSites _ _ => ruptureColumns
  | .deleteRupture _ => []
  | .insertEvent _ => eventColumns
  | .eventById _ => eventColumns
  | .deleteEvent _ => []
  | .shareSites _ => [.integers]
  | .insertField _ => fieldColumns
  | .fieldById _ => fieldColumns
  | .fieldsOfContainer _ => fieldColumns
  | .fieldsOfEvent _ => fieldColumns
  | .fieldsAtSite _ _ _ => [.bigInteger, .doubles, .integers]
  | .historyExists => [.boolean]
  | .history => historyColumns
  | .failedMigration => [.bigInteger]
  | .recordedChecksums => [.bigInteger, .checksum]
  | .applyMigration _ => []
  | .recordMigration _ => []
  | .relationExists _ => [.boolean]
  | .sitesColumn => [.text, .text]
  | .fieldCascades => [.text]
  | .measureChecks => [.text]
  | .measureIndexExists _ => [.boolean]
  | .presenceViolations => [.bigInteger]
  | .duplicateMeasures => [.text, .double, .double, .bigInteger]
  | .referenceExists _ => [.boolean]
  | .roleExists _ => [.boolean]
  | .privileges _ _ _ => [.boolean, .boolean, .boolean, .boolean, .boolean]

/-! ### Texts -/

def measureNames : String :=
  "id, imt_str, im_type, sa_period, sa_damping"

def containerNames : String :=
  "id, display_name, created_at"

def ruptureNames : String :=
  "id, magnitude, rake, tectonic_region_type, is_from_fault_source, site_indices, created_at"

def eventNames : String :=
  "id, rupture_id, ses_id, tag, seed, created_at"

def fieldNames : String :=
  "id, rupture_id, gmf_id, imt_id, ground_motion_field"

def sameComponents : String :=
  "WHERE im_type = $1 AND sa_period IS NOT DISTINCT FROM $2 AND sa_damping IS NOT DISTINCT FROM $3"

def insertMeasureText : String :=
  "INSERT INTO hzrdr.imt (imt_str, im_type, sa_period, sa_damping) VALUES ($1, $2, $3, $4) " ++
    "ON CONFLICT DO NOTHING"

def selectById (names table : String) : String :=
  "SELECT " ++ names ++ " FROM " ++ table ++ " WHERE id = $1"

def deleteById (table : String) : String :=
  "DELETE FROM " ++ table ++ " WHERE id = $1"

/-- The text that is sent. No constructor's arguments enter it, except that a migration is sent as
its own script. -/
def text : Statement → String
  | .ping => "SELECT 1"
  | .listMeasures => "SELECT " ++ measureNames ++ " FROM hzrdr.imt ORDER BY id"
  | .measureById _ => selectById measureNames "hzrdr.imt"
  | .measureByComponents _ _ _ => "SELECT " ++ measureNames ++ " FROM hzrdr.imt " ++ sameComponents
  | .registerMeasure _ _ _ _ => insertMeasureText ++ " RETURNING " ++ measureNames
  | .seedMeasure _ => insertMeasureText
  | .insertContainer _ =>
      "INSERT INTO hzrdr.gmf (display_name) VALUES ($1) RETURNING " ++ containerNames
  | .containerById _ => selectById containerNames "hzrdr.gmf"
  | .deleteContainer _ => deleteById "hzrdr.gmf"
  | .insertRupture _ =>
      "INSERT INTO hzrdr.probabilistic_rupture (magnitude, rake, tectonic_region_type, " ++
        "is_from_fault_source, site_indices) VALUES ($1, $2, $3, COALESCE($4, false), $5) " ++
        "RETURNING " ++ ruptureNames
  | .ruptureById _ => selectById ruptureNames "hzrdr.probabilistic_rupture"
  | .lockSites _ =>
      "SELECT site_indices FROM hzrdr.probabilistic_rupture WHERE id = $1 FOR UPDATE"
  | .countFields _ =>
      "SELECT COUNT(*) FROM hzrdr.gmf_rupture gr " ++
        "JOIN hzrdr.ses_rupture sr ON sr.id = gr.rupture_id WHERE sr.rupture_id = $1"
  | .updateSites _ _ =>
      "UPDATE hzrdr.probabilistic_rupture SET site_indices = $2 WHERE id = $1 RETURNING " ++
        ruptureNames
  | .deleteRupture _ => deleteById "hzrdr.probabilistic_rupture"
  | .insertEvent _ =>
      "INSERT INTO hzrdr.ses_rupture (rupture_id, ses_id, tag, seed) VALUES ($1, $2, $3, $4) " ++
        "RETURNING " ++ eventNames
  | .eventById _ => selectById eventNames "hzrdr.ses_rupture"
  | .deleteEvent _ => deleteById "hzrdr.ses_rupture"
  | .shareSites _ =>
      "SELECT pr.site_indices FROM hzrdr.ses_rupture sr " ++
        "JOIN hzrdr.probabilistic_rupture pr ON pr.id = sr.rupture_id " ++
        "WHERE sr.id = $1 FOR SHARE OF pr"
  | .insertField _ =>
      "INSERT INTO hzrdr.gmf_rupture (rupture_id, gmf_id, imt_id, ground_motion_field) " ++
        "VALUES ($1, $2, $3, $4) RETURNING " ++ fieldNames
  | .fieldById _ => selectById fieldNames "hzrdr.gmf_rupture"
  | .fieldsOfContainer _ =>
      "SELECT " ++ fieldNames ++ " FROM hzrdr.gmf_rupture WHERE gmf_id = $1 " ++
        "ORDER BY rupture_id, imt_id, id"
  | .fieldsOfEvent _ =>
      "SELECT " ++ fieldNames ++ " FROM hzrdr.gmf_rupture WHERE rupture_id = $1 " ++
        "ORDER BY gmf_id, imt_id, id"
  | .fieldsAtSite _ _ _ =>
      "SELECT gr.rupture_id, gr.ground_motion_field, pr.site_indices FROM hzrdr.gmf_rupture gr " ++
        "JOIN hzrdr.ses_rupture sr ON sr.id = gr.rupture_id " ++
        "JOIN hzrdr.probabilistic_rupture pr ON pr.id = sr.rupture_id " ++
        "WHERE gr.gmf_id = $1 AND gr.imt_id = $2 " ++
        "AND (pr.site_indices IS NULL OR $3 = ANY(pr.site_indices)) " ++
        "ORDER BY gr.rupture_id, gr.id"
  | .historyExists => "SELECT to_regclass('_sqlx_migrations') IS NOT NULL"
  | .history =>
      "SELECT version, description, installed_on, success FROM _sqlx_migrations ORDER BY version"
  | .failedMigration =>
      "SELECT version FROM _sqlx_migrations WHERE success = false ORDER BY version LIMIT 1"
  | .recordedChecksums => "SELECT version, checksum FROM _sqlx_migrations ORDER BY version"
  | .applyMigration migration => migration.script
  | .recordMigration _ =>
      "INSERT INTO _sqlx_migrations (version, description, success) VALUES ($1, $2, TRUE)"
  | .relationExists _ => "SELECT to_regclass($1) IS NOT NULL"
  | .sitesColumn =>
      "SELECT udt_name::text, is_nullable::text FROM information_schema.columns " ++
        "WHERE table_schema = 'hzrdr' AND table_name = 'probabilistic_rupture' " ++
        "AND column_name = 'site_indices'"
  | .fieldCascades =>
      "SELECT confrelid::regclass::text FROM pg_constraint " ++
        "WHERE conrelid = to_regclass('hzrdr.gmf_rupture') AND contype = 'f' AND confdeltype = 'c'"
  | .measureChecks =>
      "SELECT conname::text FROM pg_constraint " ++
        "WHERE conrelid = to_regclass('hzrdr.imt') AND contype = 'c'"
  | .measureIndexExists _ =>
      "SELECT EXISTS ( SELECT 1 FROM pg_index i " ++
        "WHERE i.indexrelid = to_regclass('hzrdr.' || $1) " ++
        "AND i.indrelid = to_regclass('hzrdr.imt') AND i.indisunique )"
  | .presenceViolations =>
      "SELECT COUNT(*) FROM hzrdr.imt WHERE CASE WHEN im_type = 'SA' " ++
        "THEN sa_period IS NULL OR sa_damping IS NULL " ++
        "ELSE sa_period IS NOT NULL OR sa_damping IS NOT NULL END"
  | .duplicateMeasures =>
      "SELECT im_type, sa_period, sa_damping, COUNT(*) FROM hzrdr.imt " ++
        "GROUP BY im_type, sa_period, sa_damping HAVING COUNT(*) > 1 " ++
        "ORDER BY im_type, sa_period, sa_damping"
  | .referenceExists _ =>
      "SELECT EXISTS ( SELECT 1 FROM hzrdr.imt " ++ sameComponents ++ " )"
  | .roleExists _ => "SELECT EXISTS (SELECT 1 FROM pg_roles WHERE rolname = $1)"
  | .privileges _ _ _ =>
      "SELECT has_table_privilege($1, $2, 'SELECT'), has_table_privilege($1, $2, 'INSERT'), " ++
        "has_table_privilege($1, $2, 'UPDATE'), has_table_privilege($1, $2, 'DELETE'), " ++
        "has_sequence_privilege($1, $3, 'USAGE')"

end Statement

/-! ### Parameters -/

inductive Parameter where
  | null
  | integer (value : Int)
  | boolean (value : Bool)
  | text (value : String)
  | double (value : Double)
  | integers (values : List Int)
  | doubles (values : List Double)
deriving DecidableEq

namespace Parameter

def row (id : RecordId) : Parameter :=
  .integer id.toInt

def small (number : Int32) : Parameter :=
  .integer number.toInt

def double? (value? : Option Double) : Parameter :=
  value?.elim .null .double

def boolean? (value? : Option Bool) : Parameter :=
  value?.elim .null .boolean

def sites (sites : List SiteId) : Parameter :=
  .integers (sites.map Int32.toInt)

def sites? (sites? : Option (List SiteId)) : Parameter :=
  sites?.elim .null sites

end Parameter

def Statement.parameters : Statement → List Parameter
  | .ping => []
  | .listMeasures => []
  | .measureById id => [.row id]
  | .measureByComponents code period? damping? => [.text code, .double? period?, .double? damping?]
  | .registerMeasure text code period? damping? =>
      [.text text, .text code, .double? period?, .double? damping?]
  | .seedMeasure reference =>
      [.text reference.text, .text reference.code, .double? reference.period?,
        .double? reference.damping?]
  | .insertContainer request => [.text request.displayName]
  | .containerById id => [.row id]
  | .deleteContainer id => [.row id]
  | .insertRupture request =>
      [.double request.magnitude, .double request.rake, .text request.tectonicRegion,
        .boolean? request.fromFaultSource?, .sites? request.sites?]
  | .ruptureById id => [.row id]
  | .lockSites rupture => [.row rupture]
  | .countFields rupture => [.row rupture]
  | .updateSites rupture sites => [.row rupture, .sites sites]
  | .deleteRupture id => [.row id]
  | .insertEvent request =>
      [.row request.rupture, .small request.eventSet, .text request.tag, .small request.seed]
  | .eventById id => [.row id]
  | .deleteEvent id => [.row id]
  | .shareSites event => [.row event]
  | .insertField request =>
      [.row request.event, .row request.container, .row request.measure, .doubles request.values]
  | .fieldById id => [.row id]
  | .fieldsOfContainer container => [.row container]
  | .fieldsOfEvent event => [.row event]
  | .fieldsAtSite container measure site => [.row container, .row measure, .small site]
  | .historyExists => []
  | .history => []
  | .failedMigration => []
  | .recordedChecksums => []
  | .applyMigration _ => []
  | .recordMigration migration => [.integer migration.version.toInt, .text migration.description]
  | .relationExists name => [.text name]
  | .sitesColumn => []
  | .fieldCascades => []
  | .measureChecks => []
  | .measureIndexExists name => [.text name]
  | .presenceViolations => []
  | .duplicateMeasures => []
  | .referenceExists reference =>
      [.text reference.code, .double? reference.period?, .double? reference.damping?]
  | .roleExists name => [.text name]
  | .privileges role table sequence => [.text role, .text table, .text sequence]

end HazardStore
