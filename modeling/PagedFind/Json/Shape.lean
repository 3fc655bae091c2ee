import PagedFind.Json.Printer
import PagedFind.Text.Basic

namespace PagedFind

/-- A field of a record. A default stands for the field where it is missing. -/
structure ShapeField (α : Type) where
  name : String
  shape : α
  default : Option Json
deriving Repr

inductive Shape where
  | any
  | unit
  | text
  | flag
  | word (bits : Nat)
  | list (item : Shape)
  | optional (inner : Shape)
  | oneOf (names : List String)
  | record (name : String) (fields : List (ShapeField Shape))
deriving Repr

inductive ShapeError where
  | wrongType (found : Json) (expected : Shape)
  | outOfRange (found : Int) (bits : Nat)
  | notSingleKey
  | unknownName (found : String) (known : List String)
  | missingField (name : String)
  | tooFewItems (found : Nat) (record : String) (fields : Nat)
  | tooManyItems (found : Nat)
deriving Repr

namespace Shape

def name : Shape → String
  | .any => "any value"
  | .unit => "unit"
  | .text => "a string"
  | .flag => "a boolean"
  | .word bits => "u" ++ Nat.repr bits
  | .list _ => "a sequence"
  | .optional inner => inner.name
  | .oneOf _ => "string or map"
  | .record name _ => "struct " ++ name

end Shape

namespace ShapeError

def ticked (text : String) : String := "\x60" ++ text ++ "\x60"

def describe : Json → String
  | .null => "null"
  | .bool b => "boolean " ++ ticked (Json.bool b).text
  | .number (.integer n) => "integer " ++ ticked (String.ofList (Number.integerText n))
  | .number x => "floating point " ++ ticked (String.ofList x.text)
  | .string s => "string " ++ Text.quoted s
  | .array _ => "sequence"
  | .object _ => "map"

def choices : List String → String
  | [] => "there are no variants"
  | [a] => "expected " ++ ticked a
  | [a, b] => "expected " ++ ticked a ++ " or " ++ ticked b
  | names => "expected one of " ++ Text.join ", " (names.map ticked)

def message : ShapeError → String
  | .wrongType found expected =>
    "invalid type: " ++ describe found ++ ", expected " ++ expected.name
  | .outOfRange found bits =>
    "invalid value: " ++ describe (.number (.integer found)) ++ ", expected "
      ++ (Shape.word bits).name
  | .notSingleKey => "invalid value: map, expected map with a single key"
  | .unknownName found known => "unknown variant " ++ ticked found ++ ", " ++ choices known
  | .missingField name => "missing field " ++ ticked name
  | .tooFewItems found record fields =>
    "invalid length " ++ Nat.repr found ++ ", expected struct " ++ record ++ " with "
      ++ Nat.repr fields ++ (if fields = 1 then " element" else " elements")
  | .tooManyItems found =>
    "invalid length " ++ Nat.repr found ++ ", expected fewer elements in array"

end ShapeError

namespace Shape

def complete (known : Entries Json) : List (ShapeField Shape) → Except ShapeError (Entries Json)
  | [] => .ok known
  | field :: rest =>
    match known.get? field.name, field.default with
    | some _, _ => complete known rest
    | none, some v => complete (known.put field.name v) rest
    | none, none => .error (.missingField field.name)

/-- One of the names, alone or as the only key of an object with nothing under it. -/
def readName (names : List String) (v : Json) : Except ShapeError Json :=
  let known (found : String) : Except ShapeError Json :=
    if names.contains found then .ok (.string found) else .error (.unknownName found names)
  match v with
  | .string found => known found
  | .object [(found, arg)] =>
    match known found, arg with
    | .error e, _ => .error e
    | .ok name, .null => .ok name
    | .ok _, arg => .error (.wrongType arg .unit)
  | .object _ => .error .notSingleKey
  | v => .error (.wrongType v (.oneOf names))

mutual

/-- The value as its shape has it. A record is an object, whose entries are read in their order, or an array
that holds the fields in theirs. -/
def read : Shape → Json → Except ShapeError Json
  | .any, v => .ok v
  | .unit, .null => .ok .null
  | .text, .string s => .ok (.string s)
  | .flag, .bool b => .ok (.bool b)
  | .word bits, .number (.integer n) =>
    if 0 ≤ n ∧ n < Nat.pow 2 bits then .ok (.number (.integer n)) else .error (.outOfRange n bits)
  | .list item, .array items => (items.mapM (read item)).map .array
  | .optional _, .null => .ok .null
  | .optional inner, v => read inner v
  | .oneOf names, v => readName names v
  | .record _ fields, .object entries =>
    (entries.foldlM (fun (known : Entries Json) (key, v) =>
      match readNamed fields key v with
      | none => Except.ok known
      | some result => result.map fun v => known.put key v) []).bind fun known =>
        (complete known fields).map .object
  | .record name fields, .array items =>
    (readItems name items.length fields.length fields 0 items []).map .object
  | shape, v => .error (.wrongType v shape)

def readNamed : List (ShapeField Shape) → String → Json → Option (Except ShapeError Json)
  | [], _, _ => none
  | field :: rest, key, v =>
    if field.name = key then some (readField field v) else readNamed rest key v

def readField : ShapeField Shape → Json → Except ShapeError Json
  | ⟨_, shape, _⟩, v => read shape v

def readItems (record : String) (length count : Nat) :
    List (ShapeField Shape) → Nat → List Json → Entries Json → Except ShapeError (Entries Json)
  | [], _, [], known => .ok known
  | [], _, _ :: _, _ => .error (.tooManyItems length)
  | field :: rest, position, [], known =>
    match field.default with
    | some v => readItems record length count rest (position + 1) [] (known.put field.name v)
    | none => .error (.tooFewItems position record count)
  | field :: rest, position, v :: vs, known =>
    match readField field v with
    | .error e => .error e
    | .ok v => readItems record length count rest (position + 1) vs (known.put field.name v)

end

end Shape

end PagedFind
