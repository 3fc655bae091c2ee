import PagedFind.CommandLine.Reader
import PagedFind.Find.Rounds
import PagedFind.Http.Backend

namespace PagedFind.CommandLine

/-- What the program reaches outside itself: files, variables and a server. -/
structure Surroundings (m : Type → Type) where
  contents : String → m (Except String String)
  lookup : String → Option String
  exchange : Http.Exchange m

structure Outcome where
  exitCode : Nat
  output : List String
  messages : List String
  events : List Event
deriving Repr

inductive ProgramError where
  | usage (e : UsageError)
  | config (e : ConfigError)
  | query (e : SelectorError)
deriving Repr

variable [Regex.Engine]

/-- A find that is ready to go. -/
structure Query where
  config : Config
  selector : Selector
  options : QueryOptions
  pretty : Bool

namespace Query

/-- The find that arguments ask for. The settings are looked at before the selector, and that before the
options. -/
def ofArguments (a : Arguments) (file : Option (Except String String))
    (lookup : String → Option String) : Except ProgramError Query := do
  let config ← (a.config file lookup).mapError .config
  let selector ← a.selector.mapError .query
  let options ← a.queryOptions.mapError .query
  return ⟨config, selector, options, a.pretty⟩

def rowText (q : Query) (row : Json) : String := if q.pretty then row.prettyText else row.text

def isShown (q : Query) (e : Event) : Bool := q.config.debugLogging || e.level ≠ .debug

def outcome (q : Query) (run : Run) : Outcome :=
  let count := Nat.repr run.result.rows.length ++ " rows "
  let rounds := run.result.rounds
  let events := (⟨.debug, "Query: " ++ q.selector.text⟩ :: run.events).filter q.isShown
  let output := run.result.rows.map q.rowText
  match run.result.error with
  | none =>
    ⟨0, output,
      [count ++ "in " ++ Nat.repr rounds ++ " rounds from '" ++ q.config.database ++ "'"], events⟩
  | some e =>
    ⟨1, output,
      [count ++ "before failure in round " ++ Nat.repr (rounds + 1),
        "Error: find failed: " ++ e.message], events⟩

end Query

def help : List String := [
  "Run selector queries against a document database's find endpoint",
  "",
  "Options:",
  "  -c, --config <CONFIG>        TOML configuration file",
  "      --host <HOST>            Server host (overrides config and environment)",
  "  -p, --port <PORT>            Server port",
  "  -d, --database <DATABASE>    Target database",
  "      --eq <EQ>                Field equals value (e.g. --eq active=true)",
  "      --ne <NE>                Field differs from value",
  "      --gt <GT>                Field is greater than value",
  "      --gte <GTE>              Field is greater than value or equal to it",
  "      --lt <LT>                Field is less than value",
  "      --lte <LTE>              Field is less than value or equal to it",
  "      --exists <EXISTS>        Field must be present",
  "      --regex <REGEX>          Field matches a regular expression (e.g. --regex name=^A)",
  "      --fields <FIELDS>        Comma-separated projection",
  "      --sort <SORT>            Sort field, optionally suffixed with :asc or :desc",
  "  -l, --limit <LIMIT>          Collect up to this many rows across rounds",
  "      --all                    Collect every match, bounded by the fetch ceiling",
  "      --use-index <USE_INDEX>  Index hint: design document, or ddoc:name",
  "      --pretty                 Pretty-print rows",
  "  -v, --verbose                Enable debug logging",
  "  -h, --help                   Print help"]

/-- Help is no failure; a line that cannot be followed exits with a code of its own. -/
def ProgramError.outcome : ProgramError → Outcome
  | .usage .help => ⟨0, help, [], []⟩
  | .usage e => ⟨2, [], ["error: " ++ e.message], []⟩
  | .config e => ⟨1, [], ["Error: " ++ e.message], []⟩
  | .query e => ⟨1, [], ["Error: " ++ e.message], []⟩

section

variable {m : Type → Type} [Monad m]

def database (s : Surroundings m) (c : Config) : Database m :=
  ⟨Http.backend s.exchange c.baseUrl c.limits, c.database⟩

def run (s : Surroundings m) (line : List String) : m Outcome :=
  match read line with
  | .error e => pure (ProgramError.usage e).outcome
  | .ok a => do
    let file ← a.configFile.mapM s.contents
    match Query.ofArguments a file s.lookup with
    | .error e => pure e.outcome
    | .ok q => return q.outcome (← (database s q.config).find q.selector q.options)

end

end PagedFind.CommandLine
