import PagedFind.CommandLine.Program
import PagedFind.Proofs.Config.Overrides

namespace PagedFind

namespace Config

abbrev Layer := (f : Field) → Option f.Value

def Layer.Over (layer : Layer) (c d : Config) : Prop := ∀ f, d.get f = (layer f).getD (c.get f)

/-- The entries of a file set the settings of a layer: of the keys of settings, those that are there have values of the
right kind. -/
def Layer.SetBy (layer : Layer) (entries : Entries Toml.Node) : Prop :=
  ∀ f, (entries.get? f.key = none ∧ layer f = none) ∨
    ∃ node v, entries.get? f.key = some (.value node) ∧ f.kind.Denotes node v ∧ layer f = some v

/-- What a file says of the settings: nothing where there is none, and else what its entries set. A file that was not
read, that is no document, or that has a value of another kind for a setting, says nothing at all. -/
inductive FileSays : Option (Except String String) → Layer → Prop where
  | absent : FileSays none fun _ => none
  | read {text : String} {entries : Entries Toml.Node} {layer : Layer} (document : Toml.read? text = some entries)
      (set : layer.SetBy entries) : FileSays (some (.ok text)) layer

inductive FileFault : Option (Except String String) → ConfigError → Prop where
  | unreadable (detail : String) : FileFault (some (.error detail)) (.unreadableFile detail)
  | invalid (text detail : String) : FileFault (some (.ok text)) (.invalidFile detail)

/-- The value of a setting: that of the arguments, else what its variable spells, else that of the file, else the
default. -/
inductive Ranks (arguments : Layer) (lookup : String → Option String) (file : Layer) (f : Field) : f.Value → Prop where
  | argument {v : f.Value} (given : arguments f = some v) : Ranks arguments lookup file f v
  | variable {spelling : String} {v : f.Value} (silent : arguments f = none) (given : Given lookup f spelling)
      (spells : f.kind.Spells spelling v) : Ranks arguments lookup file f v
  | file {v : f.Value} (silent : arguments f = none) (blank : ∀ spelling, ¬Given lookup f spelling)
      (given : file f = some v) : Ranks arguments lookup file f v
  | default (silent : arguments f = none) (blank : ∀ spelling, ¬Given lookup f spelling)
      (absent : file f = none) : Ranks arguments lookup file f (Config.default.get f)

variable {c d : Config} {entries : Entries Toml.Node} {layer : Layer} {file : Option (Except String String)}

def ofValues (values : (f : Field) → f.Value) : Config where
  hostname := values .hostname
  port := values .port
  database := values .database
  timeoutSecs := values .timeoutSecs
  maxPageSize := values .maxPageSize
  fetchCeiling := values .fetchCeiling
  debugLogging := values .debugLogging

theorem get_ofValues (values : (f : Field) → f.Value) (f : Field) : (ofValues values).get f = values f := by
  cases f <;> rfl

theorem setting_eq_some_iff {α : Type} {key : String} {before after : α} {read : Toml.Value → Option α} :
    setting entries key before read = some after ↔
      (entries.get? key = none ∧ before = after) ∨
        ∃ node, entries.get? key = some (.value node) ∧ read node = some after := by
  cases hentry : entries.get? key with
  | none => simp [setting, hentry]
  | some node => cases node <;> simp [setting, hentry]

theorem withEntries_eq_some_iff : c.withEntries entries = some d ↔
    ∀ f : Field, setting entries f.key (c.get f) f.kind.ofFile? = some (d.get f) := by
  simp only [withEntries, bind, Option.bind_eq_some_iff]
  constructor
  · rintro ⟨hostname, hhostname, port, hport, database, hdatabase, timeoutSecs, htimeoutSecs, maxPageSize, hmaxPageSize,
      fetchCeiling, hfetchCeiling, debugLogging, hdebugLogging, heq⟩ f
    cases heq
    cases f with
    | hostname => exact hhostname
    | database => exact hdatabase
    | port => exact hport
    | timeoutSecs => exact htimeoutSecs
    | maxPageSize => exact hmaxPageSize
    | fetchCeiling => exact hfetchCeiling
    | debugLogging => exact hdebugLogging
  · intro h
    exact ⟨_, h .hostname, _, h .port, _, h .database, _, h .timeoutSecs, _, h .maxPageSize, _, h .fetchCeiling, _,
      h .debugLogging, rfl⟩

theorem withEntries_eq_some_iff_setBy :
    c.withEntries entries = some d ↔ ∃ layer : Layer, layer.SetBy entries ∧ layer.Over c d := by
  simp only [withEntries_eq_some_iff, setting_eq_some_iff, Kind.ofFile?_eq_some_iff]
  constructor
  · intro h
    refine ⟨fun f => if entries.get? f.key = none then none else some (d.get f), fun f => ?_, fun f => ?_⟩
    · rcases h f with ⟨hnone, -⟩ | ⟨node, hnode, hdenotes⟩
      · exact .inl ⟨hnone, if_pos hnone⟩
      · exact .inr ⟨node, _, hnode, hdenotes, by simp [hnode]⟩
    · rcases h f with ⟨hnone, heq⟩ | ⟨node, hnode, -⟩
      · simp [hnone, heq]
      · simp [hnode]
  · rintro ⟨layer, hset, hover⟩ f
    rw [hover f]
    rcases hset f with ⟨hnone, hlayer⟩ | ⟨node, v, hnode, hdenotes, hlayer⟩
    · exact .inl ⟨hnone, by rw [hlayer]; rfl⟩
    · exact .inr ⟨node, hnode, by rw [hlayer]; exact hdenotes⟩

def ofFile : Option (Except String String) → Except ConfigError Config
  | none => .ok Config.default
  | some (.error detail) => .error (.unreadableFile detail)
  | some (.ok text) => ofToml text

theorem ofToml_eq_ok_iff {text : String} :
    ofToml text = .ok c ↔ ∃ entries, Toml.read? text = some entries ∧ default.withEntries entries = some c := by
  unfold ofToml
  split
  next hread => simp [hread]
  next entries hread =>
    split
    next hnone => simp [hread, hnone]
    next d hd => simp [hread, hd]

theorem ofFile_eq_ok_iff : ofFile file = .ok c ↔ ∃ layer, FileSays file layer ∧ layer.Over default c := by
  match file with
  | none =>
    constructor
    · rintro ⟨⟩
      exact ⟨_, .absent, fun f => rfl⟩
    · rintro ⟨_, ⟨⟩, hover⟩
      exact congrArg Except.ok (eq_of_get hover).symm
  | some (.error detail) => exact iff_of_false nofun fun ⟨_, hstated, _⟩ => nomatch hstated
  | some (.ok text) =>
    rw [ofFile, ofToml_eq_ok_iff]
    constructor
    · rintro ⟨entries, hread, hentries⟩
      obtain ⟨layer, hset, hover⟩ := withEntries_eq_some_iff_setBy.mp hentries
      exact ⟨layer, .read hread hset, hover⟩
    · rintro ⟨layer, ⟨⟩ | ⟨hread, hset⟩, hover⟩
      exact ⟨_, hread, withEntries_eq_some_iff_setBy.mpr ⟨layer, hset, hover⟩⟩

theorem fileFault_of_ofFile {e : ConfigError} (h : ofFile file = .error e) : FileFault file e := by
  match file with
  | none => cases h
  | some (.error detail) =>
    cases h
    exact .unreadable detail
  | some (.ok text) =>
    rw [ofFile, ofToml] at h
    split at h
    · cases h
      exact .invalid text _
    · split at h <;> cases h
      exact .invalid text _

end Config

namespace CommandLine.Arguments

open Config

variable {a : Arguments} {c d : Config} {file : Option (Except String String)} {lookup : String → Option String}

/-- The settings that arguments bring. They can turn the debug log on and not off. -/
def layer (a : Arguments) : Layer
  | .hostname => a.host
  | .database => a.database
  | .port => a.port
  | .debugLogging => if a.verbose then some true else none
  | .timeoutSecs | .maxPageSize | .fetchCeiling => none

theorem over_override (a : Arguments) (c : Config) : a.layer.Over c (a.override c) := by
  intro f
  cases f with
  | debugLogging =>
    show (a.verbose || c.debugLogging) = (if a.verbose then some true else none).getD c.debugLogging
    cases a.verbose <;> rfl
  | _ => rfl

theorem config_eq_bind (a : Arguments) (file : Option (Except String String)) (lookup : String → Option String) :
    a.config file lookup = ofFile file >>= fun c => match c.withEnvironment lookup with
      | (some e, _) => .error e
      | (none, c) => .ok (a.override c) := by
  match file with
  | none => rfl
  | some (.error _) => rfl
  | some (.ok _) => rfl

theorem config_of_silent (hsilent : ∀ layer, ¬FileSays file layer) (a : Arguments) (lookup : String → Option String) :
    ∃ e, a.config file lookup = .error e ∧ FileFault file e := by
  rw [config_eq_bind]
  cases hfile : ofFile file with
  | error e => exact ⟨e, rfl, fileFault_of_ofFile hfile⟩
  | ok c =>
    obtain ⟨layer, hstated, -⟩ := ofFile_eq_ok_iff.mp hfile
    exact absurd hstated (hsilent layer)

theorem config_of_says {layer : Layer} (hstated : FileSays file layer) (a : Arguments)
    (lookup : String → Option String) :
    ∃ c outcome, layer.Over Config.default c ∧ Overrides lookup Field.all c outcome ∧
      a.config file lookup = match outcome with
        | (some e, _) => .error e
        | (none, d) => .ok (a.override d) := by
  -- Settings are free of each other, so any layer over the defaults is a configuration.
  obtain ⟨c, hc⟩ : ∃ c, layer.Over Config.default c :=
    ⟨ofValues _, get_ofValues fun f => (layer f).getD (Config.default.get f)⟩
  refine ⟨c, c.withEnvironment lookup, hc, overrides_all lookup c, ?_⟩
  rw [config_eq_bind, ofFile_eq_ok_iff.mpr ⟨layer, hstated, hc⟩]
  rfl

/-- Of each setting, the value that comes first in the order of ranks is the one that is taken. -/
theorem ranks_of_applied {layer : Layer} (hover : layer.Over Config.default c)
    (haccepted : ∀ f ∈ Field.all, ¬Refused lookup f) (happlied : Applied lookup Field.all c d) (f : Field) :
    Ranks a.layer lookup layer f ((a.override d).get f) := by
  rw [a.over_override d f]
  cases harguments : a.layer f with
  | some v => exact .argument harguments
  | none =>
    show Ranks a.layer lookup layer f (d.get f)
    by_cases hgiven : ∃ spelling, Given lookup f spelling
    · obtain ⟨spelling, hgiven⟩ := hgiven
      obtain ⟨v, hspells⟩ := exists_spelled_of_not_refused (haccepted f f.mem_all) hgiven
      rw [happlied.given f f.mem_all spelling v hgiven hspells]
      exact .variable harguments hgiven hspells
    · have hblank := not_exists.mp hgiven
      rw [happlied.kept f (.inr hblank), hover f]
      cases hfile : layer f with
      | some v => exact .file harguments hblank hfile
      | none => exact .default harguments hblank hfile

theorem config_cases {layer : Layer} (hstated : FileSays file layer) (a : Arguments) (lookup : String → Option String) :
    (∃ c, a.config file lookup = .ok c ∧ (∀ f, ¬Refused lookup f) ∧ ∀ f, Ranks a.layer lookup layer f (c.get f)) ∨
      ∃ before f spelling, FirstWith (Refused lookup) Field.all before f ∧ Given lookup f spelling ∧
        a.config file lookup = .error (.invalidVariable f.variableName spelling) := by
  obtain ⟨c, outcome, hover, hoverrides, hconfig⟩ := config_of_says hstated a lookup
  cases hoverrides with
  | through accepted applied =>
    exact .inl ⟨_, hconfig, fun f => accepted f f.mem_all, ranks_of_applied hover accepted applied⟩
  | upTo first given applied => exact .inr ⟨_, _, _, first, given, hconfig⟩

theorem exists_config_eq_error_iff :
    (∃ e, a.config file lookup = .error e) ↔ (∀ layer, ¬FileSays file layer) ∨ ∃ f, Refused lookup f := by
  by_cases hsilent : ∀ layer, ¬FileSays file layer
  · obtain ⟨e, he, _⟩ := config_of_silent hsilent a lookup
    exact iff_of_true ⟨e, he⟩ (.inl hsilent)
  · obtain ⟨layer, hstated⟩ := not_forall_not.mp hsilent
    rcases config_cases hstated a lookup with ⟨c, hc, haccepted, _⟩ | ⟨_, f, _, hfirst, _, he⟩
    · refine iff_of_false (fun ⟨e, he⟩ => ?_) (not_or.mpr ⟨hsilent, not_exists.mpr haccepted⟩)
      cases hc.symm.trans he
    · exact iff_of_true ⟨_, he⟩ (.inr ⟨f, hfirst.holds⟩)

/-- The settings of a run are taken from the arguments, else from variables, else from the file, else they are the
defaults. A file that was not read, is no document or has a value of the wrong kind is reported first, and else the
first variable that is refused, even if an argument would override it; nothing else fails. And the backend that the
settings lead to lets every round bring at least one row. -/
theorem config_ranks (a : Arguments) (file : Option (Except String String)) (lookup : String → Option String) :
    ((∃ e, a.config file lookup = .error e) ↔ (∀ layer, ¬FileSays file layer) ∨ ∃ f, Refused lookup f) ∧
      ((∀ layer, ¬FileSays file layer) → ∃ e, a.config file lookup = .error e ∧ FileFault file e) ∧
      (∀ layer, FileSays file layer →
        (∀ before f spelling, FirstWith (Refused lookup) Field.all before f → Given lookup f spelling →
          a.config file lookup = .error (.invalidVariable f.variableName spelling)) ∧
        ∀ c, a.config file lookup = .ok c → ∀ f, Ranks a.layer lookup layer f (c.get f)) ∧
      ∀ c, a.config file lookup = .ok c → ∀ (m : Type → Type) [Monad m] (s : Surroundings m),
        1 ≤ (CommandLine.database s c).backend.limits.maxPageSize := by
  refine ⟨exists_config_eq_error_iff, fun hsilent => config_of_silent hsilent a lookup,
    fun layer hstated => ⟨?_, ?_⟩, fun _ _ _ _ _ => le_max_right _ 1⟩
  · intro before f spelling hfirst hgiven
    rcases config_cases hstated a lookup with ⟨_, _, haccepted, _⟩ | ⟨_, _, _, hfirst', hgiven', he⟩
    · exact absurd hfirst.holds (haccepted f)
    · obtain ⟨-, rfl⟩ := hfirst.unique hfirst'
      rw [he, hgiven.unique hgiven']
  · intro c hc
    rcases config_cases hstated a lookup with ⟨c', hc', _, hranks⟩ | ⟨_, _, _, _, _, he⟩
    · cases hc.symm.trans hc'
      exact hranks
    · cases hc.symm.trans he

/-- The host is the argument's although its variable is blank, the port is the variable's and the database the file's,
and the log stays on although a variable turns it off. A variable that says neither is reported all the same, and before
it a file that was not read. -/
theorem config_ranks_port :
    let a : Arguments := { host := some "db.local", verbose := true }
    let file : Option (Except String String) := some (.ok "port = 70\ndatabase = \"people\"\n")
    let off : String → Option String := fun name =>
      [("COUCHFIND_HOST", " "), ("COUCHFIND_PORT", " +8080 "), ("COUCHFIND_DEBUG", "off")].lookup name
    let maybe : String → Option String := fun name => [("COUCHFIND_DEBUG", "maybe")].lookup name
    a.config file off = .ok { Config.default with
      hostname := "db.local", port := 8080, database := "people", debugLogging := true } ∧
    (∃ layer, FileSays file layer ∧ Ranks a.layer off layer .hostname "db.local" ∧
      Ranks a.layer off layer .port (8080 : Nat) ∧ Ranks a.layer off layer .database "people" ∧
      Ranks a.layer off layer .debugLogging true) ∧
    a.config file maybe = .error (.invalidVariable "COUCHFIND_DEBUG" "maybe") ∧
    ∃ e, a.config (some (.error "not found")) maybe = .error e ∧ FileFault (some (.error "not found")) e := by
  intro a file off maybe
  obtain ⟨layer, hstated, -⟩ := ofFile_eq_ok_iff.mp
    (by decide +kernel : ofFile file = .ok { Config.default with port := 70, database := "people" })
  have hoff : a.config file off = .ok { Config.default with
      hostname := "db.local", port := 8080, database := "people", debugLogging := true } := by
    decide +kernel
  have hranks := ((config_ranks a file off).2.2.1 layer hstated).2 _ hoff
  have hgiven : Given maybe .debugLogging "maybe" := ⟨rfl, 'm', by decide, by decide⟩
  have hblank : ∀ f ∈ Field.all.dropLast, maybe f.variableName = none := by decide
  have hfirst : FirstWith (Refused maybe) Field.all Field.all.dropLast .debugLogging := by
    refine ⟨by decide, fun f hf hrefused => ?_, "maybe", hgiven, fun v hspells => ?_⟩
    · obtain ⟨spelling, ⟨hlookup, -⟩, -⟩ := hrefused
      cases (hblank f hf).symm.trans hlookup
    · rw [← Kind.ofVariable?_eq_some_iff] at hspells
      revert v
      decide
  exact ⟨hoff, ⟨layer, hstated, hranks .hostname, hranks .port, hranks .database, hranks .debugLogging⟩,
    ((config_ranks a file maybe).2.2.1 layer hstated).1 _ _ _ hfirst hgiven, (config_ranks a _ maybe).2.1 nofun⟩

end CommandLine.Arguments

end PagedFind
