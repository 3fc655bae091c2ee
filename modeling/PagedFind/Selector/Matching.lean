import PagedFind.Json.Basic
import PagedFind.Regex.Engine
import PagedFind.Selector.Basic

namespace PagedFind

/-- What a key of a selector document asks. A key that begins with a dollar sign is an operator, known
or not; any other is the path of a field. -/
inductive SelectorKey where
  | combine (how : Connective)
  | arrayMatch (mode : Quantifier)
  | operator (op : Operator)
  | unknown
  | field (path : String)
deriving DecidableEq, Repr

namespace SelectorKey

def isOperator (key : String) : Bool := key.toList.head? == some '$'

def ofString (key : String) : SelectorKey :=
  match key with
  | "$and" => .combine .all
  | "$or" => .combine .any
  | "$elemMatch" => .arrayMatch .some
  | "$allMatch" => .arrayMatch .every
  | _ =>
    match Operator.ofKeyword? key with
    | some op => .operator op
    | none => if isOperator key then .unknown else .field key

end SelectorKey

namespace Operator

variable [Regex.Engine]

/-- Whether an operator holds of a value, which may be missing. Only the operator that asks for presence
can hold of a missing value. -/
def holds (op : Operator) (operand : Json) (value : Option Json) : Bool :=
  match op with
  | .compare c => value.any fun v => c.holds (v.collate operand)
  | .present => operand.bool? == some value.isSome
  | .pattern =>
    match value, operand with
    | some (.string text), .string sought => Pattern.finds sought text
    | _, _ => false

end Operator

namespace Json

def isOperatorObject : Json → Bool
  | .object [] => false
  | .object entries => entries.all fun (key, _) => SelectorKey.isOperator key
  | _ => false

def isObject : Json → Bool
  | .object _ => true
  | _ => false

variable [Regex.Engine]

mutual

/-- Whether a selector document holds of a value, which may be missing: all its entries have to. -/
def selects : Json → Option Json → Bool
  | .object entries, value => selectsEntries entries value
  | _, _ => false

def selectsEntries : List (String × Json) → Option Json → Bool
  | [], _ => true
  | entry :: rest, value => selectsEntry entry value && selectsEntries rest value

/-- One entry. A field is compared with an argument that is no object of operators; so is the item of an
array with an argument that is no object. -/
def selectsEntry : String × Json → Option Json → Bool
  | (key, arg), value =>
    match SelectorKey.ofString key with
    | .combine .all => selectsAll arg value
    | .combine .any => selectsAny arg value
    | .arrayMatch mode =>
      let item (v : Json) := if arg.isObject then selects arg (some v) else valuesEqual v arg
      match mode, value with
      | .some, some (.array items) => items.any item
      | .every, some (.array items) => !items.isEmpty && items.all item
      | _, _ => false
    | .operator op => op.holds arg value
    | .unknown => false
    | .field path =>
      let field := value.bind (at? path)
      if arg.isOperatorObject then selects arg field
      else field.any fun v => valuesEqual v arg

def selectsAll : Json → Option Json → Bool
  | .array children, value => selectsAllOf children value
  | _, _ => false

def selectsAllOf : List Json → Option Json → Bool
  | [], _ => true
  | x :: xs, value => selects x value && selectsAllOf xs value

def selectsAny : Json → Option Json → Bool
  | .array children, value => selectsAnyOf children value
  | _, _ => false

def selectsAnyOf : List Json → Option Json → Bool
  | [], _ => false
  | x :: xs, value => selects x value || selectsAnyOf xs value

end

def isMatch (selector doc : Json) : Bool := selects selector (some doc)

end Json

end PagedFind
