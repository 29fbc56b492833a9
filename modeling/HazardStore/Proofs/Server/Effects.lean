import HazardStore.Server.Statement
/-!
What a text does to the tables, read off the text alone: its effect by the first words, the lock that
it takes on the rows it finds, and whether an insertion yields to the rows that are in its way. A text
that is not plainly a single statement of one of the known forms has another effect.
-/

namespace HazardStore

inductive Effect where
  | reads
  | inserts (table : String)
  | updates (table : String)
  | deletes (table : String)
  | controls
  /-- A change of definitions, several statements in one text, a selection into a new table, an
  insertion that may overwrite a row, or a text that is not understood. -/
  | other
deriving DecidableEq

namespace Effect

/-- The words of a text. Keywords and names are the same in upper and in lower case. -/
def words (text : List Char) : List String :=
  let spelt := (text.map Char.toLower).splitOnP Char.isWhitespace
  (spelt.filter (fun word => !word.isEmpty)).map String.ofList

/-- Whether a word is a table with its schema and without quotes, so that it can be compared. -/
def isQualified (word : String) : Bool :=
  word.toList.contains '.' && word.toList.all (fun c => c.isLower || c == '_' || c == '.')

def ofWords : List String → Effect
  | ["begin"] => .controls
  | ["commit"] => .controls
  | ["rollback"] => .controls
  | "select" :: others => if "into" ∈ others then .other else .reads
  | "insert" :: "into" :: table :: others =>
      if "update" ∈ others then .other else .inserts table
  | "update" :: table :: _ => if isQualified table then .updates table else .other
  | "delete" :: "from" :: table :: _ => if isQualified table then .deletes table else .other
  | _ => .other

def ofChars (text : List Char) : Effect :=
  if ';' ∈ text then .other else ofWords (words text)

def ofText (text : String) : Effect :=
  ofChars text.toList

/-- The effect leaves the definitions and all rows of the tables as they are; rows may be added. -/
def Spares (tables : List String) : Effect → Prop
  | .updates table => table ∉ tables
  | .deletes table => table ∉ tables
  | .other => False
  | _ => True

instance Spares.decidable (tables : List String) :
    (effect : Effect) → Decidable (effect.Spares tables)
  | .updates table => inferInstanceAs (Decidable (table ∉ tables))
  | .deletes table => inferInstanceAs (Decidable (table ∉ tables))
  | .other => inferInstanceAs (Decidable False)
  | .reads => inferInstanceAs (Decidable True)
  | .inserts _ => inferInstanceAs (Decidable True)
  | .controls => inferInstanceAs (Decidable True)

end Effect

/-- A lock on the rows that are found in some tables; it lasts to the end of the transaction. -/
inductive Lock where
  | owned (tables : List String)
  | shared (tables : List String)
deriving DecidableEq

namespace Lock

def tables : List String → List String
  | "from" :: table :: others => table :: tables others
  | "join" :: table :: others => table :: tables others
  | _ :: others => tables others
  | [] => []

def tablesNamed (name : String) : List String → List String
  | "from" :: table :: short :: others =>
      if short = name then table :: tablesNamed name others else tablesNamed name others
  | "join" :: table :: short :: others =>
      if short = name then table :: tablesNamed name others else tablesNamed name others
  | _ :: others => tablesNamed name others
  | [] => []

/-- What the selection asks for at its end: rows of all its tables, or of one of them. -/
def ofClauses (selection : List String) : List String → Option Lock
  | ["for", "update"] => some (.owned (tables selection))
  | ["for", "share"] => some (.shared (tables selection))
  | ["for", "update", "of", name] => some (.owned (tablesNamed name selection))
  | ["for", "share", "of", name] => some (.shared (tablesNamed name selection))
  | _ :: others => ofClauses selection others
  | [] => none

def ofWords : List String → Option Lock
  | "update" :: table :: _ => some (.owned [table])
  | "delete" :: "from" :: table :: _ => some (.owned [table])
  | "select" :: selection => ofClauses selection selection
  | _ => none

def ofText (text : String) : Option Lock :=
  ofWords (Effect.words text.toList)

end Lock

def yieldsWords : List String → Bool
  | "on" :: "conflict" :: "do" :: "nothing" :: _ => true
  | _ :: others => yieldsWords others
  | [] => false

def yieldsText (text : String) : Bool :=
  yieldsWords (Effect.words text.toList)

namespace Statement

/-- What a statement does; the script of a migration speaks for itself. -/
def effect : Statement → Effect
  | .registerMeasure _ _ _ _ => .inserts "hzrdr.imt"
  | .seedMeasure _ => .inserts "hzrdr.imt"
  | .insertContainer _ => .inserts "hzrdr.gmf"
  | .deleteContainer _ => .deletes "hzrdr.gmf"
  | .insertRupture _ => .inserts "hzrdr.probabilistic_rupture"
  | .updateSites _ _ => .updates "hzrdr.probabilistic_rupture"
  | .deleteRupture _ => .deletes "hzrdr.probabilistic_rupture"
  | .insertEvent _ => .inserts "hzrdr.ses_rupture"
  | .deleteEvent _ => .deletes "hzrdr.ses_rupture"
  | .insertField _ => .inserts "hzrdr.gmf_rupture"
  | .applyMigration migration => .ofText migration.script
  | .recordMigration _ => .inserts "_sqlx_migrations"
  | _ => .reads

def lock? : Statement → Option Lock
  | .lockSites _ => some (.owned ["hzrdr.probabilistic_rupture"])
  | .shareSites _ => some (.shared ["hzrdr.probabilistic_rupture"])
  | .updateSites _ _ => some (.owned ["hzrdr.probabilistic_rupture"])
  | .deleteContainer _ => some (.owned ["hzrdr.gmf"])
  | .deleteRupture _ => some (.owned ["hzrdr.probabilistic_rupture"])
  | .deleteEvent _ => some (.owned ["hzrdr.ses_rupture"])
  | .applyMigration migration => Lock.ofText migration.script
  | _ => none

def yields : Statement → Bool
  | .registerMeasure _ _ _ _ => true
  | .seedMeasure _ => true
  | .applyMigration migration => yieldsText migration.script
  | _ => false

theorem text_does (statement : Statement) : Effect.ofText statement.text = statement.effect ∧
    Lock.ofText statement.text = statement.lock? ∧
    yieldsText statement.text = statement.yields := by
  unfold Effect.ofText Lock.ofText yieldsText
  cases statement
  case applyMigration migration => exact ⟨rfl, rfl, rfl⟩
  -- The other texts are put together from a few pieces. They are spelled out piece by piece, since
  -- reducing a joined string takes its bytes apart again.
  all_goals
    delta text effect lock? yields
    dsimp only [selectById, deleteById, measureNames, containerNames, ruptureNames, eventNames,
      fieldNames, sameComponents, insertMeasureText]
    repeat rewrite [String.toList_append]
    repeat rewrite [String.toList_ofList]
    decide +kernel

end Statement

theorem Effect.ofText_statement (statement : Statement) :
    ofText statement.text = statement.effect :=
  statement.text_does.1

theorem Lock.ofText_statement (statement : Statement) : ofText statement.text = statement.lock? :=
  statement.text_does.2.1

theorem yieldsText_statement (statement : Statement) :
    yieldsText statement.text = statement.yields :=
  statement.text_does.2.2

theorem yieldsText_iff (statement : Statement)
    (unscripted : ∀ migration, statement ≠ .applyMigration migration) :
    yieldsText statement.text = true ↔ Effect.ofText statement.text = .inserts "hzrdr.imt" := by
  rw [yieldsText_statement, Effect.ofText_statement]
  cases statement
  case applyMigration migration => exact absurd rfl (unscripted migration)
  all_goals simp [Statement.yields, Statement.effect]

end HazardStore
