import PagedFind.Json.Basic

namespace PagedFind

inductive Comparison where
  | equal
  | notEqual
  | greater
  | greaterEqual
  | less
  | lessEqual
deriving DecidableEq, Repr

namespace Comparison

/-- Whether a comparison holds of a value that collates so with the operand. -/
def holds : Comparison → Ordering → Bool
  | .equal, order => order == .eq
  | .notEqual, order => order != .eq
  | .greater, order => order == .gt
  | .greaterEqual, order => order != .lt
  | .less, order => order == .lt
  | .lessEqual, order => order != .gt

end Comparison

inductive Operator where
  | compare (c : Comparison)
  | present
  | pattern
deriving DecidableEq, Repr

namespace Operator

def keyword : Operator → String
  | .compare .equal => "$eq"
  | .compare .notEqual => "$ne"
  | .compare .greater => "$gt"
  | .compare .greaterEqual => "$gte"
  | .compare .less => "$lt"
  | .compare .lessEqual => "$lte"
  | .present => "$exists"
  | .pattern => "$regex"

def ofKeyword? (keyword : String) : Option Operator :=
  match keyword with
  | "$eq" => some (.compare .equal)
  | "$ne" => some (.compare .notEqual)
  | "$gt" => some (.compare .greater)
  | "$gte" => some (.compare .greaterEqual)
  | "$lt" => some (.compare .less)
  | "$lte" => some (.compare .lessEqual)
  | "$exists" => some .present
  | "$regex" => some .pattern
  | _ => none

def symbol : Operator → String
  | .compare .equal => "=="
  | .compare .notEqual => "!="
  | .compare .greater => ">"
  | .compare .greaterEqual => ">="
  | .compare .less => "<"
  | .compare .lessEqual => "<="
  | .present => "exists"
  | .pattern => "=~"

end Operator

inductive Connective where
  | all
  | any
deriving DecidableEq, Repr

namespace Connective

def keyword : Connective → String
  | .all => "$and"
  | .any => "$or"

def name : Connective → String
  | .all => "and"
  | .any => "or"

def separator : Connective → String
  | .all => " && "
  | .any => " || "

end Connective

/-- How many items of an array have to satisfy what is asked of them. -/
inductive Quantifier where
  | some
  | every
deriving DecidableEq, Repr

namespace Quantifier

def keyword : Quantifier → String
  | .some => "$elemMatch"
  | .every => "$allMatch"

def name : Quantifier → String
  | .some => "any"
  | .every => "all"

end Quantifier

/-- A selector that has not been checked. The empty field is the current item of an array. -/
inductive Expr where
  | predicate (field : String) (op : Operator) (operand : Json)
  | combine (how : Connective) (children : List Expr)
  | arrayMatch (field : String) (mode : Quantifier) (inner : Expr)
deriving Repr

namespace Expr

def compare (c : Comparison) (field : String) (value : Json) : Expr :=
  .predicate field (.compare c) value

def equal : String → Json → Expr := compare .equal

def notEqual : String → Json → Expr := compare .notEqual

def greater : String → Json → Expr := compare .greater

def greaterEqual : String → Json → Expr := compare .greaterEqual

def less : String → Json → Expr := compare .less

def lessEqual : String → Json → Expr := compare .lessEqual

def present (field : String) : Expr := .predicate field .present (.bool true)

def pattern (field text : String) : Expr := .predicate field .pattern (.string text)

def allOf (children : List Expr) : Expr := .combine .all children

def anyOf (children : List Expr) : Expr := .combine .any children

/-- Some item of the array satisfies the inner expression. -/
def someItem (field : String) (inner : Expr) : Expr := .arrayMatch field .some inner

/-- Several expressions as one; a single one stands for itself. -/
def conjunction : List Expr → Expr
  | [child] => child
  | children => allOf children

/-- Every item of a non-empty array satisfies all the inner expressions. -/
def everyItem (field : String) (inner : List Expr) : Expr :=
  .arrayMatch field .every (conjunction inner)

mutual

def leafCount : Expr → Nat
  | .predicate _ _ _ => 1
  | .combine _ children => leafCountOf children
  | .arrayMatch _ _ inner => inner.leafCount

def leafCountOf : List Expr → Nat
  | [] => 0
  | x :: xs => x.leafCount + leafCountOf xs

end

end Expr

end PagedFind
