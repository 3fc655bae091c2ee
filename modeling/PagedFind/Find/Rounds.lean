import PagedFind.Find.Backend
import PagedFind.Selector.Document

namespace PagedFind

def rowId? (row : Json) : Option String := (row.get? "_id").bind Json.string?

def decodeRow (shape : Shape) (row : Json) : Except FindError Json :=
  (shape.read row).mapError fun e => .unmarshal e.message

/-- The rows of all rounds that succeeded, and the error of the one that did not. -/
structure ResultSet where
  rows : List Json
  error : Option FindError
  bookmark : Option String
  warnings : List String
  rounds : Nat
deriving Repr

namespace ResultSet

def empty : ResultSet := ⟨[], none, none, [], 0⟩

def failed (e : FindError) : ResultSet := { empty with error := some e }

/-- Puts a round before all others. An empty bookmark counts as none, and the last one is kept. -/
def after (rows : List Json) (bookmark warning : Option String) (rest : ResultSet) : ResultSet where
  rows := rows ++ rest.rows
  error := rest.error
  bookmark := rest.bookmark <|> bookmark.filter (· ≠ "")
  warnings := warning.toList ++ rest.warnings
  rounds := rest.rounds + 1

def isOk (r : ResultSet) : Bool := r.error.isNone

/-- Hands the rows on in their order; in a monad with failure, until a visit fails. -/
def visit {m : Type → Type} [Monad m] (r : ResultSet) (f : Json → m Unit) : m Unit :=
  r.rows.forM f

def decodeAll (shape : Shape) (r : ResultSet) : Except FindError (List Json) :=
  r.rows.mapM (decodeRow shape)

def complete (r : ResultSet) : Except FindError (List Json) :=
  match r.error with
  | some e => .error e
  | none => .ok r.rows

end ResultSet

structure Exchange where
  request : FindRequest
  outcome : Except FindError Page

/-- All that there is to see of a find: its calls, its result and its log. -/
structure Run where
  exchanges : List Exchange
  result : ResultSet
  events : List Event

def Run.empty : Run := ⟨[], .empty, []⟩

variable [Regex.Engine]

structure Plan where
  database : String
  selector : Selector
  request : FindRequest
  target : Nat
  pageLimit : Nat
  single : Bool

/-- Where a find stands before a round: the number of that round, the rows so far and the bookmark of the
round before. -/
structure Position where
  round : Nat
  collected : Nat
  bookmark : Option String

def Position.start : Position := ⟨1, 0, none⟩

namespace Plan

def ofQuery (limits : Limits) (database : String) (selector : Selector) (options : QueryOptions) :
    Plan where
  database := database
  selector := selector
  request := .base selector options
  target := match options.pagination with
    | .single => limits.maxPageSize
    | .upTo n => n
    | .exhaust => limits.fetchCeiling
  pageLimit := limits.maxPageSize
  single := options.pagination = .single

def remaining (plan : Plan) (p : Position) : Nat := plan.target - p.collected

def pageSize (plan : Plan) (p : Position) : Nat := min (plan.remaining p) plan.pageLimit

def roundRequest (plan : Plan) (p : Position) : FindRequest :=
  plan.request.forRound (plan.pageSize p) p.bookmark

def kept (plan : Plan) (p : Position) (page : Page) : List Json := page.docs.take (plan.remaining p)

/-- Whether nothing is left after a page: it is short, or leads nowhere else. -/
def exhausted (plan : Plan) (p : Position) (page : Page) : Bool :=
  page.docs.length < plan.pageSize p || page.bookmark.all (· = "") || page.bookmark = p.bookmark

def isLast (plan : Plan) (p : Position) (page : Page) : Bool :=
  plan.single || plan.exhausted p page || plan.target ≤ p.collected + (plan.kept p page).length

def next (plan : Plan) (p : Position) (page : Page) : Position :=
  ⟨p.round + 1, p.collected + (plan.kept p page).length, page.bookmark⟩

def roundName (p : Position) : String := "find round " ++ Nat.repr p.round

def place (plan : Plan) : String := " in '" ++ plan.database ++ "'"

def startEvent (plan : Plan) : Event :=
  ⟨.debug, "find" ++ plan.place ++ ": " ++ plan.selector.text ++ " (target "
    ++ Nat.repr plan.target ++ ")"⟩

def failureEvent (plan : Plan) (p : Position) (e : FindError) : Event :=
  ⟨.error, roundName p ++ plan.place ++ " failed: " ++ e.message⟩

/-- The events of a page: its warning, rows beyond those wanted, and what was asked and brought. -/
def pageEvents (plan : Plan) (p : Position) (page : Page) : List Event :=
  let returned := Nat.repr page.docs.length
  let size := Nat.repr (plan.pageSize p)
  (page.warning.toList.map fun w => ⟨.warning, roundName p ++ plan.place ++ ": " ++ w⟩)
    ++ (if plan.remaining p < page.docs.length then
        [⟨.warning, roundName p ++ " returned " ++ returned ++ " rows for a page of " ++ size
          ++ ", truncating"⟩]
      else [])
    ++ [⟨.debug, roundName p ++ plan.place ++ ": requested " ++ size ++ ", returned " ++ returned⟩]

def finishEvent (plan : Plan) (run : Run) : Event :=
  ⟨.info, "find" ++ plan.place ++ " finished: " ++ Nat.repr run.result.rows.length ++ " rows in "
    ++ Nat.repr run.exchanges.length ++ " rounds"
    ++ (if run.result.isOk then "" else " (with error)")⟩

/-- A number of rounds that is enough: each but the last brings a row, unless pages of no rows are asked
for. -/
def roundBound (plan : Plan) : Nat := if plan.pageLimit = 0 then Text.maxWord else plan.target

end Plan

section

variable {m : Type → Type} [Monad m]

/-- The run of a find from a position on, for at most a number of rounds. -/
def rounds (backend : Backend m) (plan : Plan) : Nat → Position → m Run
  | 0, _ => pure .empty
  | fuel + 1, p => do
    let request := plan.roundRequest p
    let reply ← backend.execute plan.database request
    match reply.outcome with
    | .error e =>
      pure ⟨[⟨request, .error e⟩], .failed e, reply.events ++ [plan.failureEvent p e]⟩
    | .ok page =>
      let rest ← if plan.isLast p page then pure .empty else rounds backend plan fuel (plan.next p page)
      pure ⟨⟨request, .ok page⟩ :: rest.exchanges,
        rest.result.after (plan.kept p page) page.bookmark page.warning,
        reply.events ++ plan.pageEvents p page ++ rest.events⟩

/-- Finds the documents of a database that a selector selects. A failure ends the find and is kept beside the
rows of the rounds before it; a find for no rows asks nothing. -/
def find (backend : Backend m) (database : String) (selector : Selector) (options : QueryOptions) : m Run := do
  let plan := Plan.ofQuery backend.limits database selector options
  if plan.target = 0 then pure .empty
  else
    let run ← rounds backend plan plan.roundBound .start
    pure { run with events := plan.startEvent :: run.events ++ [plan.finishEvent run] }

structure Database (m : Type → Type) where
  backend : Backend m
  name : String

namespace Database

def find (db : Database m) (selector : Selector) (options : QueryOptions) : m Run :=
  PagedFind.find db.backend db.name selector options

def createIndex (db : Database m) (spec : IndexSpec) : m (Reply IndexOutcome) :=
  PagedFind.createIndex db.backend db.name spec

end Database

end

end PagedFind
