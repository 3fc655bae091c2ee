import PagedFind.Query.Options
import PagedFind.Selector.Document

namespace PagedFind

structure FindRequest where
  selector : Json
  fields : Option (List String)
  sort : Option (List SortField)
  limit : Option Nat
  bookmark : Option String
  useIndex : Option IndexHint
  executionStats : Bool

namespace FindRequest

/-- The request that all rounds of a find share. -/
def base [Regex.Engine] (selector : Selector) (options : QueryOptions) : FindRequest where
  selector := selector.document
  fields := options.fields
  sort := options.sort
  limit := none
  bookmark := none
  useIndex := options.useIndex
  executionStats := options.executionStats

/-- The request of one round, for a number of rows from a bookmark on. -/
def forRound (request : FindRequest) (pageSize : Nat) (bookmark : Option String) : FindRequest :=
  { request with limit := some pageSize, bookmark := bookmark }

end FindRequest

def SortField.document (s : SortField) : Json := .object [(s.field, .string s.direction.name)]

def IndexHint.document : IndexHint → Json
  | .designDoc ddoc => .string ddoc
  | .named ddoc name => .array [.string ddoc, .string name]

def textArray (texts : List String) : Json := .array (texts.map .string)

def optionalEntry {α : Type} (key : String) (document : α → Json) (value : Option α) : Entries Json :=
  value.toList.map fun v => (key, document v)

/-- The document of a request, its keys in the order of sending; what is not asked for is left out. -/
def FindRequest.document (r : FindRequest) : Json :=
  .object ([("selector", r.selector)]
    ++ optionalEntry "fields" textArray r.fields
    ++ optionalEntry "sort" (fun fields => .array (fields.map SortField.document)) r.sort
    ++ optionalEntry "limit" Json.nat r.limit
    ++ optionalEntry "bookmark" Json.string r.bookmark
    ++ optionalEntry "use_index" IndexHint.document r.useIndex
    ++ if r.executionStats then [("execution_stats", .bool true)] else [])

structure IndexSpec where
  fields : List String
  name : Option String
  ddoc : Option String
deriving DecidableEq, Repr

namespace IndexSpec

def ofFields (fields : List String) : Except SelectorError IndexSpec :=
  if fields.isEmpty then .error .emptyIndex
  else if fields.contains "" then .error (.emptyFieldName .index)
  else .ok ⟨fields, none, none⟩

def named (spec : IndexSpec) (name : String) : IndexSpec := { spec with name := some name }

def inDesignDoc (spec : IndexSpec) (ddoc : String) : IndexSpec := { spec with ddoc := some ddoc }

def document (spec : IndexSpec) : Json :=
  .object ([("index", .object [("fields", textArray spec.fields)])]
    ++ optionalEntry "name" Json.string spec.name
    ++ optionalEntry "ddoc" Json.string spec.ddoc
    ++ [("type", .string "json")])

end IndexSpec

end PagedFind
