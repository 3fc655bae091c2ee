import PagedFind.Config.Basic
import PagedFind.Proofs.Store.Bookmark
import PagedFind.Proofs.Text.Trim

namespace PagedFind.Config

inductive Kind where
  | text
  | count (max : Nat)
  | flag

namespace Kind

abbrev Value : Kind → Type
  | text => String
  | count _ => Nat
  | flag => Bool

def words : Bool → List String
  | true => ["1", "true", "yes", "on"]
  | false => ["0", "false", "no", "off"]

/-- What the value of a variable stands for: itself as a text, else a number in decimal digits or a word for yes or no,
with blank space around it. -/
def Spells : (kind : Kind) → String → kind.Value → Prop
  | text, spelling, s => s = spelling
  | count max, spelling, n => ∃ sign digits, Text.Padded (sign ++ digits) spelling.toList ∧
      (sign = [] ∨ sign = ['+']) ∧ digits ≠ [] ∧ (∀ c ∈ digits, c.isDigit = true) ∧
      Nat.ofDigitChars 10 digits 0 = n ∧ n ≤ max
  | flag, spelling, b => ∃ word ∈ words b, ∃ core, Text.Padded core spelling.toList ∧ Text.InEitherCase word.toList core

/-- What a value in a file stands for. -/
def Denotes : (kind : Kind) → Toml.Value → kind.Value → Prop
  | text, v, s => v = .text s
  | count max, v, n => v = .integer n ∧ n ≤ max
  | flag, v, b => v = .flag b

def ofVariable? : (kind : Kind) → String → Option kind.Value
  | text => some
  | count max => Variable.count? max
  | flag => Variable.flag?

def ofFile? : (kind : Kind) → Toml.Value → Option kind.Value
  | text => readText
  | count max => readCount max
  | flag => readFlag

variable {kind : Kind}

theorem count?_eq_some_iff {max n : Nat} {spelling : String} :
    Variable.count? max spelling = some n ↔ (count max).Spells spelling n := by
  rw [Variable.count?, Text.trim, String.toList_ofList, Text.readCount?_eq_some_iff]
  constructor
  · rintro ⟨sign, digits, hcore, hread⟩
    exact ⟨sign, digits, hcore ▸ Text.padded_trimClass spelling.toList, hread⟩
  · rintro ⟨sign, digits, hpadded, hsign, hne, hdigits, hvalue⟩
    have hplain : ∀ c ∈ sign ++ digits, Text.isBlank c = false := by
      refine List.forall_mem_append.mpr ⟨?_, fun c hc => Text.isBlank_of_isDigit (hdigits c hc)⟩
      rcases hsign with rfl | rfl
      · exact List.forall_mem_nil _
      · exact List.forall_mem_singleton.mpr (by decide)
    exact ⟨sign, digits, hpadded.trimClass_eq hplain, hsign, hne, hdigits, hvalue⟩

theorem letters_of_words (b : Bool) : ∀ word ∈ words b, ∀ l ∈ word.toList,
    l.toLower = l ∧ Text.isBlank l = false ∧ Text.isBlank l.toUpper = false := by
  have hletters : (words b).all fun word => word.toList.all fun l =>
      l.toLower = l && !Text.isBlank l && !Text.isBlank l.toUpper := by
    cases b <;> decide
  simpa only [List.all_eq_true, Bool.and_eq_true, decide_eq_true_eq, Bool.not_eq_true', and_assoc] using hletters

theorem ite_words_eq_some_iff {b : Bool} {word : String} :
    (if (words true).contains word then some true
      else if (words false).contains word then some false else none) = some b ↔ word ∈ words b := by
  have hdisjoint : ∀ word ∈ words false, word ∉ words true := by decide
  simp only [List.contains_iff_mem]
  by_cases hyes : word ∈ words true
  · rw [if_pos hyes]
    cases b with
    | true => exact iff_of_true rfl hyes
    | false => exact iff_of_false nofun fun hno => hdisjoint word hno hyes
  · rw [if_neg hyes]
    cases b with
    | true => exact iff_of_false (by split <;> nofun) hyes
    | false => simp

theorem flag?_eq_some_iff {b : Bool} {spelling : String} :
    Variable.flag? spelling = some b ↔ flag.Spells spelling b := by
  obtain ⟨core, hcore⟩ : ∃ core, core = Text.trimClass Text.isBlank spelling.toList := ⟨_, rfl⟩
  have hread : Variable.flag? spelling = some b ↔ String.ofList (core.map Char.toLower) ∈ words b := by
    rw [Variable.flag?, Text.trim, String.toList_ofList, ← hcore]
    exact ite_words_eq_some_iff
  rw [hread]
  constructor
  · intro hword
    refine ⟨_, hword, core, hcore ▸ Text.padded_trimClass _, ?_⟩
    refine (Text.map_toLower_eq_iff fun l hl => (letters_of_words b _ hword l hl).1).mp ?_
    rw [String.toList_ofList]
  · rintro ⟨word, hword, core', hpadded, hcase⟩
    have hletters := letters_of_words b word hword
    have hlower := (Text.map_toLower_eq_iff fun l hl => (hletters l hl).1).mpr hcase
    have hplain : ∀ c ∈ core', Text.isBlank c = false := by
      intro c hc
      have hletter : c.toLower ∈ word.toList := hlower ▸ List.mem_map_of_mem hc
      obtain ⟨hfixed, hsmall, hcapital⟩ := hletters _ hletter
      rcases (Text.toLower_eq_iff hfixed).mp rfl with heq | heq
      · rw [heq]
        exact hsmall
      · rw [heq]
        exact hcapital
    rw [hcore, hpadded.trimClass_eq hplain, hlower, String.ofList_toList]
    exact hword

theorem ofVariable?_eq_some_iff {spelling : String} {v : kind.Value} :
    kind.ofVariable? spelling = some v ↔ kind.Spells spelling v := by
  cases kind with
  | text =>
    show some spelling = some v ↔ v = spelling
    rw [Option.some_inj, eq_comm]
  | count max =>
    show Variable.count? max spelling = some v ↔ _
    rw [count?_eq_some_iff]
  | flag =>
    show Variable.flag? spelling = some v ↔ _
    rw [flag?_eq_some_iff]

theorem readCount_eq_some_iff {max n : Nat} {node : Toml.Value} :
    readCount max node = some n ↔ node = .integer n ∧ n ≤ max := by
  cases node with
  | integer value =>
    simp only [readCount, Option.ite_none_right_eq_some, Option.some_inj, Toml.Value.integer.injEq]
    omega
  | _ => simp [readCount]

theorem ofFile?_eq_some_iff {node : Toml.Value} {v : kind.Value} :
    kind.ofFile? node = some v ↔ kind.Denotes node v := by
  cases kind with
  | text =>
    show readText node = some v ↔ node = .text v
    cases node <;> simp [readText]
  | count max =>
    show readCount max node = some v ↔ _
    exact readCount_eq_some_iff
  | flag =>
    show readFlag node = some v ↔ node = .flag v
    cases node <;> simp [readFlag]

end Kind

inductive Field where
  | hostname
  | database
  | port
  | timeoutSecs
  | maxPageSize
  | fetchCeiling
  | debugLogging
deriving DecidableEq

namespace Field

def all : List Field := [hostname, database, port, timeoutSecs, maxPageSize, fetchCeiling, debugLogging]

def kind : Field → Kind
  | hostname => .text
  | database => .text
  | port => .count maxPort
  | timeoutSecs => .count Text.maxWord
  | maxPageSize => .count Text.maxWord
  | fetchCeiling => .count Text.maxWord
  | debugLogging => .flag

abbrev Value (f : Field) : Type := f.kind.Value

def variableName : Field → String
  | hostname => "COUCHFIND_HOST"
  | database => "COUCHFIND_DATABASE"
  | port => "COUCHFIND_PORT"
  | timeoutSecs => "COUCHFIND_TIMEOUT_SECS"
  | maxPageSize => "COUCHFIND_MAX_PAGE_SIZE"
  | fetchCeiling => "COUCHFIND_FETCH_CEILING"
  | debugLogging => "COUCHFIND_DEBUG"

def key : Field → String
  | hostname => "hostname"
  | database => "database"
  | port => "port"
  | timeoutSecs => "timeout_secs"
  | maxPageSize => "max_page_size"
  | fetchCeiling => "fetch_ceiling"
  | debugLogging => "debug_logging"

theorem mem_all (f : Field) : f ∈ all := by cases f <;> decide

theorem nodup_all : all.Nodup := by decide

end Field

def get (c : Config) : (f : Field) → f.Value
  | .hostname => c.hostname
  | .database => c.database
  | .port => c.port
  | .timeoutSecs => c.timeoutSecs
  | .maxPageSize => c.maxPageSize
  | .fetchCeiling => c.fetchCeiling
  | .debugLogging => c.debugLogging

def put (c : Config) : (f : Field) → f.Value → Config
  | .hostname, v => { c with hostname := v }
  | .database, v => { c with database := v }
  | .port, v => { c with port := v }
  | .timeoutSecs, v => { c with timeoutSecs := v }
  | .maxPageSize, v => { c with maxPageSize := v }
  | .fetchCeiling, v => { c with fetchCeiling := v }
  | .debugLogging, v => { c with debugLogging := v }

variable {c d : Config} {f g : Field}

@[simp] theorem get_put_self (c : Config) (f : Field) (v : f.Value) : (c.put f v).get f = v := by
  cases f <;> rfl

theorem get_put_of_ne (h : g ≠ f) (v : f.Value) : (c.put f v).get g = c.get g := by
  cases f <;> cases g <;> first | rfl | exact absurd rfl h

/-- The settings are all that there is to a configuration. -/
theorem eq_of_get (h : ∀ f, c.get f = d.get f) : c = d := by
  show (⟨c.get .hostname, c.get .port, c.get .database, c.get .timeoutSecs, c.get .maxPageSize,
    c.get .fetchCeiling, c.get .debugLogging⟩ : Config) = d
  simp only [h]
  rfl

def Field.toVariable (f : Field) : Variable :=
  ⟨f.variableName, fun c spelling => (f.kind.ofVariable? spelling).map (c.put f)⟩

theorem all_eq_map_toVariable : Variable.all = Field.all.map Field.toVariable := rfl

end PagedFind.Config
