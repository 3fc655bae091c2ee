import PagedFind.Json.Reader
import PagedFind.Json.Shape
import PagedFind.Selector.Validation
import PagedFind.Query.Request

namespace PagedFind

inductive JsonFault where
  | unreadable (e : Json.ReadError)
  | misshapen (e : ShapeError)
deriving Repr

namespace JsonFault

def message : JsonFault → String
  | .unreadable .truncated => "the text ends too early"
  | .unreadable .malformed => "the text is malformed"
  | .misshapen e => e.message

end JsonFault

inductive FindError where
  | validation (e : SelectorError)
  | transport (detail : String)
  | backend (status : Nat) (error reason : String)
  | unmarshal (detail : String)
  | json (fault : JsonFault)
  /-- The end of the asked page is beyond the numbers of sixty-four bits. -/
  | pageOverflow
deriving Repr

namespace FindError

def message : FindError → String
  | .validation e => "Validation error: " ++ e.message
  | .transport detail => "Transport error: " ++ detail
  | .backend status error reason =>
    "Backend error: status " ++ Nat.repr status ++ ", " ++ error ++ ": " ++ reason
  | .unmarshal detail => "Unmarshal error: " ++ detail
  | .json fault => "JSON error: " ++ fault.message
  | .pageOverflow => "Page overflow"

def status? : FindError → Option Nat
  | .backend status _ _ => some status
  | _ => none

end FindError

structure Page where
  docs : List Json
  bookmark : Option String
  warning : Option String
deriving Repr

namespace Page

def empty : Page := ⟨[], none, none⟩

def shape : Shape :=
  .record "Page"
    [⟨"docs", .list .any, some (.array [])⟩, ⟨"bookmark", .optional .text, some .null⟩,
      ⟨"warning", .optional .text, some .null⟩]

/-- The page in a document, all of whose fields may be missing. -/
def ofJson (v : Json) : Except ShapeError Page :=
  (shape.read v).map fun v =>
    ⟨((v.get? "docs").bind Json.array?).getD [], (v.get? "bookmark").bind Json.string?,
      (v.get? "warning").bind Json.string?⟩

end Page

inductive IndexResult where
  | created
  | existing
deriving DecidableEq, Repr

def IndexResult.name : IndexResult → String
  | .created => "created"
  | .existing => "exists"

structure IndexOutcome where
  result : IndexResult
  id : String
  name : String
deriving DecidableEq, Repr

namespace IndexOutcome

def shape : Shape :=
  .record "IndexOutcome"
    [⟨"result", .oneOf [IndexResult.created.name, IndexResult.existing.name], none⟩,
      ⟨"id", .text, some (.string "")⟩, ⟨"name", .text, some (.string "")⟩]

def ofJson (v : Json) : Except ShapeError IndexOutcome :=
  (shape.read v).map fun v =>
    let text (key : String) : String := ((v.get? key).bind Json.string?).getD ""
    ⟨if text "result" = IndexResult.created.name then .created else .existing, text "id",
      text "name"⟩

end IndexOutcome

structure Limits where
  maxPageSize : Nat
  fetchCeiling : Nat
deriving DecidableEq, Repr

namespace Limits

def standard : Limits := ⟨100, 10000⟩

/-- Limits that let every round bring at least one row. -/
def ofSizes (maxPageSize fetchCeiling : Nat) : Limits := ⟨max maxPageSize 1, fetchCeiling⟩

end Limits

inductive Level where
  | debug
  | info
  | warning
  | error
deriving DecidableEq, Repr

def Level.name : Level → String
  | .debug => "DEBUG"
  | .info => "INFO"
  | .warning => "WARN"
  | .error => "ERROR"

structure Event where
  level : Level
  message : String
deriving DecidableEq, Repr

/-- What comes of a call: its outcome, and what was logged on the way. -/
structure Reply (α : Type) where
  outcome : Except FindError α
  events : List Event

/-- The calls that a database serves, in a monad that carries its state. -/
structure Backend (m : Type → Type) where
  limits : Limits
  execute : String → FindRequest → m (Reply Page)
  createIndex : String → IndexSpec → m (Reply IndexOutcome)

def IndexOutcome.event (outcome : IndexOutcome) (database : String) (spec : IndexSpec) : Event :=
  let index := "ndex '" ++ outcome.name ++ "' on " ++ Text.quotedList spec.fields
  match outcome.result with
  | .created => ⟨.info, "Created i" ++ index ++ " in '" ++ database ++ "'"⟩
  | .existing => ⟨.debug, "I" ++ index ++ " already exists in '" ++ database ++ "'"⟩

def createIndex {m : Type → Type} [Monad m] (backend : Backend m) (database : String) (spec : IndexSpec) :
    m (Reply IndexOutcome) := do
  let reply ← backend.createIndex database spec
  match reply.outcome with
  | .ok outcome => pure { reply with events := reply.events ++ [outcome.event database spec] }
  | .error _ => pure reply

end PagedFind
