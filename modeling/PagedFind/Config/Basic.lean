import PagedFind.Find.Backend
import PagedFind.Toml.Reader
import PagedFind.Text.Basic

namespace PagedFind

structure Config where
  hostname : String
  port : Nat
  database : String
  timeoutSecs : Nat
  maxPageSize : Nat
  fetchCeiling : Nat
  debugLogging : Bool
deriving DecidableEq, Repr

inductive ConfigError where
  | unreadableFile (detail : String)
  | invalidFile (detail : String)
  | invalidVariable (name value : String)
deriving DecidableEq, Repr

def ConfigError.message : ConfigError → String
  | .unreadableFile detail => "Failed to read config file: " ++ detail
  | .invalidFile detail => "Invalid config file: " ++ detail
  | .invalidVariable name value => "Invalid value for " ++ name ++ ": " ++ value

namespace Config

def default : Config where
  hostname := "localhost"
  port := 5984
  database := "default"
  timeoutSecs := 30
  maxPageSize := Limits.standard.maxPageSize
  fetchCeiling := Limits.standard.fetchCeiling
  debugLogging := false

def maxPort : Nat := 65535

def baseUrl (c : Config) : String := "http://" ++ c.hostname ++ ":" ++ Nat.repr c.port

def limits (c : Config) : Limits := .ofSizes c.maxPageSize c.fetchCeiling

/-- A setting in a file: the value before, where the file has none, and nothing where it has another kind of
value. -/
def setting {α : Type} (entries : Entries Toml.Node) (key : String) (before : α)
    (read : Toml.Value → Option α) : Option α :=
  match entries.get? key with
  | none => some before
  | some (.value v) => read v
  | some _ => none

def readText : Toml.Value → Option String
  | .text s => some s
  | _ => none

def readFlag : Toml.Value → Option Bool
  | .flag b => some b
  | _ => none

def readCount (max : Nat) : Toml.Value → Option Nat
  | .integer n => if 0 ≤ n ∧ n ≤ max then some n.toNat else none
  | _ => none

def withEntries (c : Config) (entries : Entries Toml.Node) : Option Config := do
  let hostname ← setting entries "hostname" c.hostname readText
  let port ← setting entries "port" c.port (readCount maxPort)
  let database ← setting entries "database" c.database readText
  let timeoutSecs ← setting entries "timeout_secs" c.timeoutSecs (readCount Text.maxWord)
  let maxPageSize ← setting entries "max_page_size" c.maxPageSize (readCount Text.maxWord)
  let fetchCeiling ← setting entries "fetch_ceiling" c.fetchCeiling (readCount Text.maxWord)
  let debugLogging ← setting entries "debug_logging" c.debugLogging readFlag
  return { hostname, port, database, timeoutSecs, maxPageSize, fetchCeiling, debugLogging }

def ofToml (text : String) : Except ConfigError Config :=
  match Toml.read? text with
  | none => .error (.invalidFile "the text is malformed")
  | some entries =>
    match default.withEntries entries with
    | none => .error (.invalidFile "a setting has a value of the wrong kind")
    | some c => .ok c

end Config

/-- A variable and what its value does to the settings; some values are refused. -/
structure Variable where
  name : String
  set : Config → String → Option Config

namespace Variable

def count? (max : Nat) (value : String) : Option Nat :=
  Text.readCount? max (Text.trim value).toList

def flag? (value : String) : Option Bool :=
  let word := String.ofList ((Text.trim value).toList.map Char.toLower)
  if ["1", "true", "yes", "on"].contains word then some true
  else if ["0", "false", "no", "off"].contains word then some false
  else none

def all : List Variable := [
  ⟨"COUCHFIND_HOST", fun c v => some { c with hostname := v }⟩,
  ⟨"COUCHFIND_DATABASE", fun c v => some { c with database := v }⟩,
  ⟨"COUCHFIND_PORT", fun c v => (count? Config.maxPort v).map ({ c with port := · })⟩,
  ⟨"COUCHFIND_TIMEOUT_SECS", fun c v => (count? Text.maxWord v).map ({ c with timeoutSecs := · })⟩,
  ⟨"COUCHFIND_MAX_PAGE_SIZE", fun c v => (count? Text.maxWord v).map ({ c with maxPageSize := · })⟩,
  ⟨"COUCHFIND_FETCH_CEILING", fun c v => (count? Text.maxWord v).map ({ c with fetchCeiling := · })⟩,
  ⟨"COUCHFIND_DEBUG", fun c v => (flag? v).map ({ c with debugLogging := · })⟩]

def value? (lookup : String → Option String) (v : Variable) : Option String :=
  (lookup v.name).filter fun value => !value.toList.all Text.isBlank

end Variable

namespace Config

/-- Lets variables override settings one after the other, up to the first with a value that is refused. -/
def override (lookup : String → Option String) : List Variable → Config → Option ConfigError × Config
  | [], c => (none, c)
  | v :: rest, c =>
    match v.value? lookup with
    | none => override lookup rest c
    | some value =>
      match v.set c value with
      | some c => override lookup rest c
      | none => (some (.invalidVariable v.name value), c)

def withEnvironment (lookup : String → Option String) (c : Config) : Option ConfigError × Config :=
  override lookup Variable.all c

end Config

end PagedFind
