import PagedFind.Config.Basic
import PagedFind.Json.Printer
import PagedFind.Json.Reader
import PagedFind.Query.Options
import PagedFind.Text.Basic

namespace PagedFind.CommandLine

inductive ValueError where
  | noField (text : String)
  | unknownDirection (name : String)
  | noNumber (text : String)
deriving DecidableEq, Repr

def ValueError.message : ValueError → String
  | .noField text => "expected field=value, got '" ++ text ++ "'"
  | .unknownDirection name => "unknown sort direction '" ++ name ++ "'"
  | .noNumber text => "'" ++ text ++ "' is no number in range"

structure FieldValue where
  field : String
  value : Json
deriving Repr

namespace FieldValue

/-- The value that a text stands for: the one it spells in JSON, else the text itself. -/
def valueOf (text : String) : Json :=
  match Json.read text with
  | .ok v => v
  | .error _ => .string text

def ofText (text : String) : Except ValueError FieldValue :=
  match Text.cutFirst '=' text.toList with
  | none => .error (.noField text)
  | some (field, rest) => .ok ⟨String.ofList field, valueOf (String.ofList rest)⟩

def pattern (x : FieldValue) : String :=
  match x.value with
  | .string s => s
  | v => v.text

end FieldValue

/-- A field to sort by; what follows its last colon is the direction, which is else ascending. -/
def sortField (text : String) : Except ValueError SortField :=
  match Text.cutLast ':' text.toList with
  | none => .ok ⟨text, .ascending⟩
  | some (field, name) =>
    let name := String.ofList name
    if name = Direction.ascending.name then .ok ⟨String.ofList field, .ascending⟩
    else if name = Direction.descending.name then .ok ⟨String.ofList field, .descending⟩
    else .error (.unknownDirection name)

def indexHint (text : String) : IndexHint :=
  match Text.cutFirst ':' text.toList with
  | none => .designDoc text
  | some (ddoc, name) => .named (String.ofList ddoc) (String.ofList name)

def count (text : String) : Except ValueError Nat :=
  match Text.readCount? Text.maxWord text.toList with
  | some n => .ok n
  | none => .error (.noNumber text)

/-- A port; zero may have a minus sign. -/
def port (text : String) : Except ValueError Nat :=
  let n := match text.toList with
    | '-' :: digits => (Text.readCount? 0 digits).filter fun _ => digits.head? != some '+'
    | signed => Text.readCount? Config.maxPort signed
  match n with
  | some n => .ok n
  | none => .error (.noNumber text)

end PagedFind.CommandLine
