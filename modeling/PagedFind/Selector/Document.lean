import PagedFind.Selector.Validation
import PagedFind.Json.Printer

namespace PagedFind

namespace Expr

/-- What is asked of a field; of the current item it is asked without naming a field. -/
def keyed (field : String) (body : Json) : Json :=
  if field = "" then body else .object [(field, body)]

mutual

def document : Expr → Json
  | .predicate field op operand => keyed field (.object [(op.keyword, operand)])
  | .combine how children => .object [(how.keyword, .array (documents children))]
  | .arrayMatch field mode inner => keyed field (.object [(mode.keyword, inner.document)])

def documents : List Expr → List Json
  | [] => []
  | x :: xs => x.document :: documents xs

end

mutual

def text : Expr → String
  | .predicate field op operand =>
    let field := if field = "" then "$elem" else field
    match op with
    | .present => field ++ " exists"
    | _ => field ++ " " ++ op.symbol ++ " " ++ operand.text
  | .combine how children => "(" ++ Text.join how.separator (texts children) ++ ")"
  | .arrayMatch field mode inner => mode.name ++ "(" ++ field ++ ": " ++ inner.text ++ ")"

def texts : List Expr → List String
  | [] => []
  | x :: xs => x.text :: texts xs

end

end Expr

variable [Regex.Engine]

def Selector.document (s : Selector) : Json := s.root.document

def Selector.text (s : Selector) : String := s.root.text

end PagedFind
