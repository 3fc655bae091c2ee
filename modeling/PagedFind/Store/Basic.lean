import PagedFind.Find.Backend
import PagedFind.Json.Basic
import PagedFind.Selector.Matching
import PagedFind.Store.Bookmark

namespace PagedFind

variable [Regex.Engine]

structure StoredIndex where
  ddoc : String
  name : String
  fields : List String
deriving DecidableEq, Repr

structure Collection where
  documents : List Json
  indexes : List StoredIndex
deriving Repr

def Collection.empty : Collection := ⟨[], []⟩

/-- A failure that one call meets, counted from one over all databases. -/
structure PlannedFailure where
  call : Nat
  status : Nat
  error : String
  reason : String
deriving DecidableEq, Repr

structure Store where
  databases : Entries Collection
  limits : Limits
  calls : Nat
  failure : Option PlannedFailure
deriving Repr

def Direction.order : Direction → Ordering → Ordering
  | .ascending, order => order
  | .descending, order => order.swap

namespace SortField

/-- The value that a document is sorted by; a missing one is null. -/
def key (s : SortField) (doc : Json) : Direction × Json := (s.direction, (doc.at? s.field).getD .null)

def compareKeys : List (Direction × Json) → List (Direction × Json) → Ordering
  | (direction, a) :: as, (_, b) :: bs =>
    (direction.order (Json.collate a b)).then (compareKeys as bs)
  | _, _ => .eq

/-- Sorts documents by their keys; those with equal keys stay in their order. -/
def sort (fields : List SortField) (docs : List Json) : List Json :=
  let keyed := docs.map fun doc => (fields.map (·.key doc), doc)
  (keyed.mergeSort fun a b => (compareKeys a.1 b.1).isLE).map Prod.snd

/-- The order of documents where a query asks for none. -/
def byId : List SortField := [⟨"_id", .ascending⟩]

end SortField

namespace StoredIndex

/-- Whether an index serves a sort: it begins with the sort fields. -/
def serves (index : StoredIndex) (fields : List String) : Bool := fields.isPrefixOf index.fields

/-- Whether an index is the one that a hint names. -/
def isHinted (index : StoredIndex) : IndexHint → Bool
  | .designDoc ddoc => index.ddoc == ddoc
  | .named ddoc name => index.ddoc == ddoc && index.name == name

def designMark : String := "_design/"

def designName (ddoc : String) : String :=
  if designMark.toList.isPrefixOf ddoc.toList then ddoc else designMark ++ ddoc

/-- The index that a request describes. Its name comes from its fields, and its design document is called
after its name, where they are not given. -/
def ofSpec (spec : IndexSpec) : StoredIndex :=
  let name := spec.name.getD ("idx-" ++ Text.join "-" spec.fields)
  let ddoc := match spec.ddoc with
    | some ddoc => designName ddoc
    | none => designMark ++ name
  ⟨ddoc, name, spec.fields⟩

end StoredIndex

def IndexHint.label : IndexHint → String
  | .designDoc ddoc => ddoc
  | .named ddoc name => ddoc ++ ", " ++ name

namespace FindError

def noDatabase : FindError := .backend 404 "not_found" "Database does not exist."

def mixedSort : FindError :=
  .backend 400 "unsupported_mixed_sort"
    "Sorts currently only support a single direction for all fields."

def noUsableIndex : FindError :=
  .backend 400 "no_usable_index"
    "No global index exists for this sort, try indexing by the sort fields."

def invalidBookmark : FindError := .backend 400 "invalid_bookmark" "Invalid bookmark value"

end FindError

namespace Collection

/-- Refuses a sort in both directions, and one that no index serves. -/
def checkSort (c : Collection) : Option (List SortField) → Except FindError Unit
  | none => .ok ()
  | some sort =>
    if sort.any fun s => some s.direction != sort.head?.map (·.direction) then .error .mixedSort
    else if c.indexes.any (·.serves (sort.map (·.field))) then .ok ()
    else .error .noUsableIndex

/-- A hint that no index has, or else that there are no indexes. -/
def warning? (c : Collection) (hint : Option IndexHint) : Option String :=
  match hint.filter fun h => !c.indexes.any (·.isHinted h) with
  | some h =>
    some (h.label ++ " was not used because it does not contain a valid index for this query.")
  | none =>
    if c.indexes.isEmpty then
      some "no matching index found, create an index to optimize query time"
    else none

def selected (c : Collection) (request : FindRequest) : List Json :=
  SortField.sort (request.sort.getD SortField.byId)
    (c.documents.filter request.selector.isMatch)

/-- The number of rows before the page that a bookmark leads to. An empty bookmark leads to the first. -/
def offset : Option String → Except FindError Nat
  | none => .ok 0
  | some bookmark =>
    if bookmark = "" then .ok 0
    else match Bookmark.decode? bookmark with
      | some n => .ok n
      | none => .error .invalidBookmark

/-- The number of rows that a page holds where a request sets no limit. -/
def defaultLimit : Nat := 25

def project (fields : Option (List String)) (doc : Json) : Json :=
  match fields with
  | none => doc
  | some fields => doc.project fields

def page (c : Collection) (maxPageSize : Nat) (request : FindRequest) : Except FindError Page :=
  match c.checkSort request.sort, offset request.bookmark with
  | .error e, _ => .error e
  | .ok (), .error e => .error e
  | .ok (), .ok offset =>
    let rows := c.selected request
    let start := min offset rows.length
    let limit := min (request.limit.getD defaultLimit) maxPageSize
    if Text.maxWord < start + limit then .error .pageOverflow
    else
      let stop := min (start + limit) rows.length
      .ok ⟨((rows.drop start).take (stop - start)).map (project request.fields),
        some (Bookmark.encode stop), c.warning? request.useIndex⟩

end Collection

namespace Store

def ofLimits (limits : Limits) : Store := ⟨[], limits, 0, none⟩

def addDocuments (s : Store) (database : String) (docs : List Json) : Store :=
  let c := (s.databases.get? database).getD .empty
  { s with databases := s.databases.put database { c with documents := c.documents ++ docs } }

def documentCount (s : Store) (database : String) : Nat :=
  ((s.databases.get? database).map (·.documents.length)).getD 0

def failOn (s : Store) (failure : PlannedFailure) : Store := { s with failure := some failure }

/-- The outcome of the next call; a failure planned for it comes before all else. -/
def answer (s : Store) (database : String) (request : FindRequest) : Except FindError Page :=
  match s.failure.filter (·.call = s.calls + 1) with
  | some f => .error (.backend f.status f.error f.reason)
  | none =>
    match s.databases.get? database with
    | none => .error .noDatabase
    | some c => c.page s.limits.maxPageSize request

/-- Answers a call, which is counted whatever comes of it. -/
def execute (s : Store) (database : String) (request : FindRequest) : Except FindError Page × Store :=
  (s.answer database request, { s with calls := s.calls + 1 })

def createIndex (s : Store) (database : String) (spec : IndexSpec) :
    Except FindError IndexOutcome × Store :=
  match s.databases.get? database with
  | none => (.error .noDatabase, s)
  | some c =>
    let index := StoredIndex.ofSpec spec
    if c.indexes.contains index then (.ok ⟨.existing, index.ddoc, index.name⟩, s)
    else
      (.ok ⟨.created, index.ddoc, index.name⟩,
        { s with databases := s.databases.put database { c with indexes := c.indexes ++ [index] } })

/-- The store as the backend of finds; its limits stay what they are. -/
def backend (limits : Limits) : Backend (StateM Store) where
  limits := limits
  execute database request := fun s =>
    let (outcome, s) := s.execute database request
    (⟨outcome, []⟩, s)
  createIndex database spec := fun s =>
    let (outcome, s) := s.createIndex database spec
    (⟨outcome, []⟩, s)

end Store

end PagedFind
