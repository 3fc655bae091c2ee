import PagedFind.CommandLine.Value
import PagedFind.Config.Basic
import PagedFind.Selector.Document

namespace PagedFind

def Comparison.all : List Comparison :=
  [.equal, .notEqual, .greater, .greaterEqual, .less, .lessEqual]

namespace CommandLine

structure Arguments where
  configFile : Option String := none
  host : Option String := none
  port : Option Nat := none
  database : Option String := none
  comparisons : List (Comparison × FieldValue) := []
  present : List String := []
  patterns : List FieldValue := []
  fields : List String := []
  sort : List SortField := []
  limit : Option Nat := none
  all : Bool := false
  useIndex : Option String := none
  pretty : Bool := false
  verbose : Bool := false

namespace Arguments

/-- The predicates, whatever the order of their options: comparisons kind by kind, then presence, then
patterns. -/
def predicates (a : Arguments) : List Expr :=
  (Comparison.all.flatMap fun c =>
    (a.comparisons.filter fun x => x.1 = c).map fun x => .predicate x.2.field (.compare c) x.2.value)
    ++ a.present.map Expr.present
    ++ a.patterns.map fun x => .pattern x.field x.pattern

def selector [Regex.Engine] (a : Arguments) : Except SelectorError Selector := Selector.select a.predicates

def optionCalls (a : Arguments) : List OptionCall :=
  (if a.fields.isEmpty then [] else [.fields a.fields])
    ++ (if a.sort.isEmpty then [] else [.sort a.sort])
    ++ a.limit.toList.map OptionCall.limit
    ++ (if a.all then [.fetchAll] else [])
    ++ a.useIndex.toList.map fun text => .useIndex (indexHint text)

def queryOptions (a : Arguments) : Except SelectorError QueryOptions :=
  QueryOptions.ofCalls a.optionCalls

def override (a : Arguments) (c : Config) : Config :=
  { c with
    hostname := a.host.getD c.hostname
    port := a.port.getD c.port
    database := a.database.getD c.database
    debugLogging := a.verbose || c.debugLogging }

/-- The settings of a run. They come from the arguments, else from variables, else from the file that the
arguments name, else they are the defaults. The file is given as read, or with the reason why it was not. -/
def config (a : Arguments) (file : Option (Except String String)) (lookup : String → Option String) :
    Except ConfigError Config := do
  let fromFile ← match file with
    | none => .ok Config.default
    | some (.error detail) => .error (.unreadableFile detail)
    | some (.ok text) => Config.ofToml text
  match fromFile.withEnvironment lookup with
  | (some e, _) => .error e
  | (none, c) => .ok (a.override c)

end Arguments

end CommandLine

end PagedFind
