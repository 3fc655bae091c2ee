import PagedFind.Json.Basic

namespace PagedFind.Toml

inductive Value where
  | text (value : String)
  | integer (value : Int)
  | flag (value : Bool)
  | other
deriving DecidableEq, Repr

/-- How a table came about: under a header of its own, on the way to another header, or on the way to a key
with dots. -/
inductive Origin where
  | header
  | way
  | dotted
deriving DecidableEq, Repr

inductive Node where
  | value (v : Value)
  | table (origin : Origin) (entries : List (String × Node))
  /-- Tables under one header in double brackets, the latest apart from those before it. -/
  | tables (latest : List (String × Node)) (earlier : List (List (String × Node)))

abbrev Change := Origin → Entries Node → Option (Entries Node)

/-- Makes a change to the table at the end of a path, opening the tables that are missing. Of several tables
under one header the latest is meant. No key with dots leads into a table with a header of its own. -/
def changeAt (opened : Origin) (change : Change) : List String → Change
  | [], origin, entries => change origin entries
  | key :: path, _, entries =>
    match entries.get? key with
    | none => (changeAt opened change path opened []).map fun inner =>
        entries.put key (.table opened inner)
    | some (.table origin inner) =>
      if opened = .dotted ∧ origin = .header then none
      else (changeAt opened change path origin inner).map fun inner =>
        entries.put key (.table origin inner)
    | some (.tables latest earlier) =>
      (changeAt opened change path .header latest).map fun latest =>
        entries.put key (.tables latest earlier)
    | some (.value _) => none

/-- Sets a new key. Where dots lead to its table, it has to be a table of dots. -/
def setKey (path : List String) (key : String) (v : Value) : Change :=
  changeAt .dotted
    (fun origin entries =>
      if (origin = .dotted) ≠ (path ≠ []) then none
      else match entries.get? key with
        | some _ => none
        | none => some (entries.put key (.value v))) path

/-- Opens a table under a header of its own: a new one, or one that was only on the way to others. -/
def openTable (path : List String) (key : String) : Change :=
  changeAt .way
    (fun _ entries =>
      match entries.get? key with
      | none => some (entries.put key (.table .header []))
      | some (.table .way inner) => some (entries.put key (.table .header inner))
      | some _ => none) path

def addTable (path : List String) (key : String) : Change :=
  changeAt .way
    (fun _ entries =>
      match entries.get? key with
      | none => some (entries.put key (.tables [] []))
      | some (.tables latest earlier) => some (entries.put key (.tables [] (latest :: earlier)))
      | some _ => none) path

end PagedFind.Toml
