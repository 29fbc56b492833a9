import HazardStore.Text.Blank
import HazardStore.Text.Numeral
/-!
Settings from the environment: where the database is, how many connections may be open, and how long
to wait for one. The address is taken as it stands; numbers may have blanks around them.
-/

namespace HazardStore

inductive Setting where
  | databaseUrl
  | maxConnections
  | acquireTimeout
deriving DecidableEq

structure Settings where
  databaseUrl : String
  maxConnections : Nat
  /-- In seconds. -/
  acquireTimeout : Nat
deriving DecidableEq

inductive SettingsError where
  | missing (setting : Setting)
  | invalid (setting : Setting) (value : String)
deriving DecidableEq

def Setting.name : Setting → String
  | .databaseUrl => "DATABASE_URL"
  | .maxConnections => "DB_MAX_CONNECTIONS"
  | .acquireTimeout => "DB_ACQUIRE_TIMEOUT_SECS"

def Setting.expected : Setting → String
  | .databaseUrl => "URL"
  | .maxConnections => "positive u32"
  | .acquireTimeout => "u64"

def SettingsError.message : SettingsError → String
  | .missing setting => setting.name ++ " must be set"
  | .invalid setting value =>
      setting.name ++ " must be a valid " ++ setting.expected ++ " (got '" ++ value ++ "')"

namespace Settings

open Text

/-- What the environment says about a name; a value that is no text is not there. -/
abbrev Environment := String → Option String

def defaultMaxConnections : Nat := 5

def defaultAcquireTimeout : Nat := 30

def numberOr (environment : Environment) (setting : Setting) (bound default : Nat) :
    Except SettingsError Nat :=
  match environment setting.name with
  | none => .ok default
  | some value =>
      match boundedNumeral? bound (trim value.toList) with
      | some number => .ok number
      | none => .error (.invalid setting value)

/-- The address, which may not be blank. -/
def address (environment : Environment) : Except SettingsError String :=
  match environment Setting.databaseUrl.name with
  | some url => if trim url.toList = [] then .error (.missing .databaseUrl) else .ok url
  | none => .error (.missing .databaseUrl)

def connectionLimit (environment : Environment) : Except SettingsError Nat := do
  let limit ← numberOr environment .maxConnections UInt32.size defaultMaxConnections
  if limit = 0 then .error (.invalid .maxConnections "0") else return limit

/-- The settings are judged in the order address, connections, timeout. -/
def ofEnvironment (environment : Environment) : Except SettingsError Settings := do
  let databaseUrl ← address environment
  let maxConnections ← connectionLimit environment
  let acquireTimeout ← numberOr environment .acquireTimeout UInt64.size defaultAcquireTimeout
  return { databaseUrl, maxConnections, acquireTimeout }

end Settings

end HazardStore
