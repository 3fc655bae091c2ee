import PagedFind.Number.Double
import PagedFind.Text.Basic

namespace PagedFind

abbrev Entries (α : Type) := List (String × α)

namespace Entries

variable {α : Type}

def get? (key : String) : Entries α → Option α
  | [] => none
  | (k, v) :: rest => if k = key then some v else get? key rest

def put (key : String) (value : α) : Entries α → Entries α
  | [] => [(key, value)]
  | (k, v) :: rest =>
    match Text.compare key k with
    | .lt => (key, value) :: (k, v) :: rest
    | .eq => (key, value) :: rest
    | .gt => (k, v) :: put key value rest

def ofList (pairs : List (String × α)) : Entries α :=
  pairs.foldl (fun entries (k, v) => entries.put k v) []

def keys (entries : Entries α) : List String := entries.map Prod.fst

def Sorted (entries : Entries α) : Prop := entries.keys.Pairwise (· < ·)

end Entries

inductive Json where
  | null
  | bool (value : Bool)
  | number (value : Number)
  | string (value : String)
  | array (items : List Json)
  | object (entries : List (String × Json))
deriving Repr, BEq, Inhabited

namespace Json

def nat (n : Nat) : Json := .number (.integer n)

/-- The object with the given keys, a later value of a key replacing an earlier one. -/
def ofPairs (pairs : List (String × Json)) : Json := .object (Entries.ofList pairs)

def get? (key : String) : Json → Option Json
  | .object entries => Entries.get? key entries
  | _ => none

def string? : Json → Option String
  | .string s => some s
  | _ => none

def bool? : Json → Option Bool
  | .bool b => some b
  | _ => none

def array? : Json → Option (List Json)
  | .array items => some items
  | _ => none

def object? : Json → Option (Entries Json)
  | .object entries => some entries
  | _ => none

def nat? : Json → Option Nat
  | .number (.integer n) => if 0 ≤ n then some n.toNat else none
  | _ => none

mutual

/-- Every object in the value has its keys in order, each once. -/
def Canonical : Json → Prop
  | .array items => CanonicalItems items
  | .object entries => Entries.Sorted entries ∧ CanonicalEntries entries
  | _ => True

def CanonicalItems : List Json → Prop
  | [] => True
  | x :: xs => x.Canonical ∧ CanonicalItems xs

def CanonicalEntries : List (String × Json) → Prop
  | [] => True
  | (_, v) :: rest => v.Canonical ∧ CanonicalEntries rest

end

/-- Null, booleans, numbers, strings, arrays and objects follow one another. -/
def rank : Json → Nat
  | .null => 0
  | .bool _ => 1
  | .number _ => 2
  | .string _ => 3
  | .array _ => 4
  | .object _ => 5

mutual

/-- Arrays compare item by item and objects entry by entry, a beginning before what extends it;
numbers compare by their binary64 images. -/
def collate : Json → Json → Ordering
  | .bool a, .bool b => compare a b
  | .number a, .number b => compare a.units b.units
  | .string a, .string b => Text.compare a b
  | .array a, .array b => collateItems a b
  | .object a, .object b => collateEntries a b
  | a, b => compare a.rank b.rank
termination_by structural a => a

def collateItems : List Json → List Json → Ordering
  | [], [] => .eq
  | [], _ :: _ => .lt
  | _ :: _, [] => .gt
  | a :: as, b :: bs => (collate a b).then (collateItems as bs)
termination_by structural as => as

def collateEntries : List (String × Json) → List (String × Json) → Ordering
  | [], [] => .eq
  | [], _ :: _ => .lt
  | _ :: _, [] => .gt
  | a :: as, b :: bs => (collateEntry a b).then (collateEntries as bs)
termination_by structural as => as

def collateEntry : String × Json → String × Json → Ordering
  | (k, v), (l, w) => (Text.compare k l).then (collate v w)
termination_by structural a => a

end

/-- Two values that collate the same: alike but for the spelling of numbers. -/
def valuesEqual (a b : Json) : Bool := collate a b == .eq

end Json

def pathKeys (path : String) : List String := Text.splitOn '.' path

namespace Json

def follow : List String → Json → Option Json
  | [], v => some v
  | key :: rest, v => (v.get? key).bind (follow rest)

def at? (path : String) (v : Json) : Option Json := follow (pathKeys path) v

end Json

namespace Entries

/-- Sets the value at a chain of keys, making the objects on the way; a value on the way that is
no object stays as it is. -/
def graft (value : Json) : List String → Entries Json → Entries Json
  | [], entries => entries
  | [key], entries => put key value entries
  | key :: next :: rest, entries =>
    match get? key entries with
    | none => put key (.object (graft value (next :: rest) [])) entries
    | some (.object inner) => put key (.object (graft value (next :: rest) inner)) entries
    | some _ => entries

end Entries

namespace Json

/-- The document that holds just the values at the given paths, each in its place. -/
def project (doc : Json) (paths : List String) : Json :=
  .object (paths.foldl
    (fun entries path =>
      match doc.at? path with
      | none => entries
      | some value => Entries.graft value (pathKeys path) entries) [])

end Json

end PagedFind
