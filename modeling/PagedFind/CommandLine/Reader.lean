import PagedFind.CommandLine.Arguments

namespace PagedFind.CommandLine

inductive Flag where
  | all
  | pretty
  | verbose
  | help
deriving DecidableEq, Repr

inductive Setting where
  | configFile
  | host
  | port
  | database
  | compare (c : Comparison)
  | present
  | pattern
  | fields
  | sort
  | limit
  | useIndex
deriving DecidableEq, Repr

inductive Switch where
  | flag (f : Flag)
  | setting (s : Setting)
deriving DecidableEq, Repr

namespace Switch

def names : List (String × Switch) := [
  ("config", .setting .configFile), ("host", .setting .host), ("port", .setting .port),
  ("database", .setting .database), ("eq", .setting (.compare .equal)),
  ("ne", .setting (.compare .notEqual)), ("gt", .setting (.compare .greater)),
  ("gte", .setting (.compare .greaterEqual)), ("lt", .setting (.compare .less)),
  ("lte", .setting (.compare .lessEqual)), ("exists", .setting .present),
  ("regex", .setting .pattern), ("fields", .setting .fields), ("sort", .setting .sort),
  ("limit", .setting .limit), ("all", .flag .all), ("use-index", .setting .useIndex),
  ("pretty", .flag .pretty), ("verbose", .flag .verbose), ("help", .flag .help)]

def letters : List (Char × Switch) := [
  ('c', .setting .configFile), ('p', .setting .port), ('d', .setting .database),
  ('l', .setting .limit), ('v', .flag .verbose), ('h', .flag .help)]

def ofName? (name : String) : Option Switch := names.lookup name

def ofLetter? (letter : Char) : Option Switch := letters.lookup letter

def name (s : Switch) : String :=
  "--" ++ ((names.find? fun entry => entry.2 = s).map fun entry => entry.1).getD ""

end Switch

def Setting.name (s : Setting) : String := (Switch.setting s).name

def Flag.name (f : Flag) : String := (Switch.flag f).name

/-- Why a command line cannot be followed; asking for help is one of the reasons. -/
inductive UsageError where
  | help
  | unknown (argument : String)
  | missingValue (option : String)
  | surplusValue (option value : String)
  | invalidValue (option value : String) (e : ValueError)
  | conflict (option other : String)
deriving DecidableEq, Repr

def UsageError.message : UsageError → String
  | .help => "help is asked for"
  | .unknown argument => "unexpected argument '" ++ argument ++ "'"
  | .missingValue option => "a value is required for '" ++ option ++ "'"
  | .surplusValue option value => "unexpected value '" ++ value ++ "' for '" ++ option ++ "'"
  | .invalidValue option value e =>
    "invalid value '" ++ value ++ "' for '" ++ option ++ "': " ++ e.message
  | .conflict option other => "'" ++ option ++ "' cannot be used with '" ++ other ++ "'"

namespace Arguments

def raise (a : Arguments) (f : Flag) : Except UsageError Arguments :=
  let again : Except UsageError Arguments := .error (.conflict f.name f.name)
  match f with
  | .help => .error .help
  | .all => if a.all then again else .ok { a with all := true }
  | .pretty => if a.pretty then again else .ok { a with pretty := true }
  | .verbose => if a.verbose then again else .ok { a with verbose := true }

/-- Gives an option its value. What asks for several rows of a query may be repeated, each time with one
more; everything else stands once. -/
def set (a : Arguments) (s : Setting) (text : String) : Except UsageError Arguments :=
  let valid {α : Type} (value : Except ValueError α) : Except UsageError α :=
    value.mapError (.invalidValue s.name text)
  let once {α : Type} (before : Option α) (value : Except UsageError α) : Except UsageError (Option α) :=
    if before.isSome then .error (.conflict s.name s.name) else value.map some
  match s with
  | .configFile => do
    let path := if text.isEmpty then .error (.missingValue s.name) else .ok text
    return { a with configFile := ← once a.configFile path }
  | .host => do return { a with host := ← once a.host (.ok text) }
  | .port => do return { a with port := ← once a.port (valid (CommandLine.port text)) }
  | .database => do return { a with database := ← once a.database (.ok text) }
  | .compare c => do
    return { a with comparisons := a.comparisons ++ [(c, ← valid (FieldValue.ofText text))] }
  | .present => .ok { a with present := a.present ++ [text] }
  | .pattern => do return { a with patterns := a.patterns ++ [← valid (FieldValue.ofText text)] }
  | .fields => .ok { a with fields := a.fields ++ Text.splitOn ',' text }
  | .sort => do return { a with sort := a.sort ++ [← valid (sortField text)] }
  | .limit => do return { a with limit := ← once a.limit (valid (count text)) }
  | .useIndex => do return { a with useIndex := ← once a.useIndex (.ok text) }

end Arguments

/-- How far a command line is read: the arguments that are settled, and the last option if it has a value,
with the value once it is there. -/
structure Progress where
  settled : Arguments
  pending : Option (Setting × Option String)

namespace Progress

def start : Progress := ⟨{}, none⟩

/-- Looks at the value of the last option. It waits for that until the following option has been recognised or the
line is at its end, so of two faults the unknown option counts first. -/
def settle (p : Progress) : Except UsageError Arguments :=
  match p.pending with
  | none => .ok p.settled
  | some (s, none) => .error (.missingValue s.name)
  | some (s, some text) => p.settled.set s text

def flag (p : Progress) (f : Flag) : Except UsageError Progress := do
  let a ← p.settle
  return ⟨← a.raise f, none⟩

def option (p : Progress) (s : Setting) (value : Option String) : Except UsageError Progress := do
  let a ← p.settle
  match value with
  | some text => return ⟨← a.set s text, none⟩
  | none => return ⟨a, some (s, none)⟩

def named (p : Progress) (name : String) (value : Option String) : Except UsageError Progress :=
  match Switch.ofName? name, value with
  | none, _ => .error (.unknown ("--" ++ name))
  | some (.flag f), none => p.flag f
  | some (.flag f), some text => .error (.surplusValue f.name text)
  | some (.setting s), _ => p.option s value

/-- The options of letters. What follows the letter of an option with a value is that value, after an equals
sign or without one. -/
def lettered (p : Progress) : List Char → Except UsageError Progress
  | [] => .ok p
  | c :: rest =>
    match Switch.ofLetter? c with
    | none => .error (.unknown ("-" ++ c.toString))
    | some (.flag f) => do lettered (← p.flag f) rest
    | some (.setting s) =>
      p.option s (match rest with
        | [] => none
        | '=' :: value => some (String.ofList value)
        | _ => some (String.ofList rest))

def plain (p : Progress) (text : String) : Except UsageError Progress :=
  match p.pending with
  | some (s, none) => .ok { p with pending := some (s, some text) }
  | _ => .error (.unknown text)

def argument (p : Progress) (text : String) : Except UsageError Progress :=
  match text.toList with
  | '-' :: '-' :: rest =>
    match Text.cutFirst '=' rest with
    | none => p.named (String.ofList rest) none
    | some (name, value) => p.named (String.ofList name) (some (String.ofList value))
  | '-' :: c :: rest => p.lettered (c :: rest)
  | _ => p.plain text

def finish (p : Progress) : Except UsageError Arguments := do
  let a ← p.settle
  if a.all && a.limit.isSome then .error (.conflict Flag.all.name Setting.limit.name) else return a

/-- Reads on. Two dashes end the options, and there is nothing else that could follow them. -/
def read (p : Progress) : List String → Except UsageError Arguments
  | [] => p.finish
  | text :: rest =>
    if text = "--" then
      match rest with
      | [] => p.finish
      | surplus :: _ => .error (.unknown surplus)
    else do read (← p.argument text) rest

end Progress

/-- The arguments of a command line. -/
def read (line : List String) : Except UsageError Arguments := Progress.start.read line

end PagedFind.CommandLine
