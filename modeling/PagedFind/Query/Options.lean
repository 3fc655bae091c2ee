import PagedFind.Selector.Validation

namespace PagedFind

inductive Direction where
  | ascending
  | descending
deriving DecidableEq, Repr

def Direction.name : Direction → String
  | .ascending => "asc"
  | .descending => "desc"

structure SortField where
  field : String
  direction : Direction
deriving DecidableEq, Repr

inductive IndexHint where
  | designDoc (ddoc : String)
  | named (ddoc name : String)
deriving DecidableEq, Repr

/-- How many rows a find collects: those of one round, up to a number, or all. -/
inductive Pagination where
  | single
  | upTo (rows : Nat)
  | exhaust
deriving DecidableEq, Repr

structure QueryOptions where
  fields : Option (List String)
  sort : Option (List SortField)
  limit : Option Nat
  fetchAll : Bool
  useIndex : Option IndexHint
  executionStats : Bool
deriving DecidableEq, Repr

/-- One setting of an option. -/
inductive OptionCall where
  | fields (names : List String)
  | sort (fields : List SortField)
  | limit (rows : Nat)
  | fetchAll
  | useIndex (hint : IndexHint)
  | executionStats (enabled : Bool)
deriving DecidableEq, Repr

namespace QueryOptions

def default : QueryOptions := ⟨none, none, none, false, none, false⟩

/-- A later setting of an option replaces an earlier one. -/
def apply (options : QueryOptions) : OptionCall → QueryOptions
  | .fields names => { options with fields := some names }
  | .sort fields => { options with sort := some fields }
  | .limit rows => { options with limit := some rows }
  | .fetchAll => { options with fetchAll := true }
  | .useIndex hint => { options with useIndex := some hint }
  | .executionStats enabled => { options with executionStats := enabled }

def checkNames (whenEmpty : SelectorError) (list : FieldList) :
    Option (List String) → Except SelectorError Unit
  | none => .ok ()
  | some names =>
    if names.isEmpty then .error whenEmpty
    else if names.contains "" then .error (.emptyFieldName list)
    else .ok ()

def check (options : QueryOptions) : Except SelectorError Unit := do
  checkNames .emptyProjection .projection options.fields
  checkNames .emptySort .sort (options.sort.map fun fields => fields.map (·.field))

def ofCalls (calls : List OptionCall) : Except SelectorError QueryOptions := do
  let options := calls.foldl apply default
  options.check
  return options

def rowLimit (options : QueryOptions) : Option Nat := options.limit.filter (0 < ·)

/-- A limit counts before the wish for all rows. -/
def pagination (options : QueryOptions) : Pagination :=
  match options.rowLimit with
  | some n => .upTo n
  | none => if options.fetchAll then .exhaust else .single

end QueryOptions

end PagedFind
