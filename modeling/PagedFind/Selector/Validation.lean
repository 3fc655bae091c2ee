import PagedFind.Selector.Basic
import PagedFind.Regex.Engine

namespace PagedFind

inductive FieldList where
  | projection
  | sort
  | index
deriving DecidableEq, Repr

def FieldList.name : FieldList → String
  | .projection => "projection"
  | .sort => "sort"
  | .index => "index"

inductive SelectorError where
  | emptyCombination (how : Connective)
  | emptyArrayMatch (field : String)
  | itemPathOutsideArray
  | invalidPattern (pattern reason : String)
  | emptyProjection
  | emptySort
  | emptyIndex
  | emptyFieldName (list : FieldList)
deriving DecidableEq, Repr

namespace SelectorError

def message : SelectorError → String
  | .emptyCombination how => how.name ++ " combinator needs at least one child"
  | .emptyArrayMatch field =>
    "Array match on '" ++ field ++ "' needs at least one inner expression"
  | .itemPathOutsideArray => "Empty field path is only allowed inside an array match"
  | .invalidPattern pattern reason =>
    "Invalid regular expression '" ++ pattern ++ "': " ++ reason
  | .emptyProjection => "Projection needs at least one field"
  | .emptySort => "Sort needs at least one field"
  | .emptyIndex => "Index needs at least one field"
  | .emptyFieldName list => "Empty field name in " ++ list.name

end SelectorError

variable [Regex.Engine]

namespace Expr

def checkPattern (text : String) : Except SelectorError Unit :=
  match Pattern.defect? text with
  | none => .ok ()
  | some reason => .error (.invalidPattern text reason)

def isEmptyCombination : Expr → Bool
  | .combine _ [] => true
  | _ => false

mutual

/-- The first fault in reading order. An operand of a pattern that is no text counts as the empty
pattern. -/
def check (inArray : Bool) : Expr → Except SelectorError Unit
  | .predicate field op operand =>
    if field = "" ∧ !inArray then .error .itemPathOutsideArray
    else match op with
      | .pattern => checkPattern (operand.string?.getD "")
      | _ => .ok ()
  | .combine how [] => .error (.emptyCombination how)
  | .combine _ (child :: children) =>
    match check inArray child with
    | .error e => .error e
    | .ok () => checkAll inArray children
  | .arrayMatch field _ inner =>
    if field = "" ∧ !inArray then .error .itemPathOutsideArray
    else if inner.isEmptyCombination then .error (.emptyArrayMatch field)
    else check true inner

def checkAll (inArray : Bool) : List Expr → Except SelectorError Unit
  | [] => .ok ()
  | x :: xs =>
    match check inArray x with
    | .error e => .error e
    | .ok () => checkAll inArray xs

end

end Expr

/-- An expression that has been checked. -/
structure Selector where
  root : Expr
  checked : root.check false = .ok ()

namespace Selector

def ofExpr? (root : Expr) : Except SelectorError Selector :=
  match h : root.check false with
  | .ok () => .ok ⟨root, h⟩
  | .error e => .error e

def everything : Selector := ⟨.greater "_id" .null, rfl⟩

/-- The conjunction of expressions; none at all select every document. -/
def select (exprs : List Expr) : Except SelectorError Selector :=
  match exprs with
  | [] => .ok everything
  | exprs => ofExpr? (.conjunction exprs)

end Selector

end PagedFind
