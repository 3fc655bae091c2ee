import PagedFind.Proofs.Config.Fields
import PagedFind.Proofs.Lists.First

namespace PagedFind.Config

def Given (lookup : String → Option String) (f : Field) (spelling : String) : Prop :=
  lookup f.variableName = some spelling ∧ ∃ c ∈ spelling.toList, Text.isBlank c = false

def Refused (lookup : String → Option String) (f : Field) : Prop :=
  ∃ spelling, Given lookup f spelling ∧ ∀ v, ¬f.kind.Spells spelling v

/-- Of the given settings, those whose variables are not blank are as these spell them; all others stay. -/
structure Applied (lookup : String → Option String) (fields : List Field) (c d : Config) : Prop where
  given : ∀ f ∈ fields, ∀ spelling v, Given lookup f spelling → f.kind.Spells spelling v → d.get f = v
  kept : ∀ f, (f ∉ fields ∨ ∀ spelling, ¬Given lookup f spelling) → d.get f = c.get f

/-- What the variables of some settings bring, looked at one after the other: all of them are applied, or those before
the first that is refused, which is reported with its value. -/
inductive Overrides (lookup : String → Option String) (fields : List Field) (c : Config) :
    Option ConfigError × Config → Prop where
  | through {d : Config} (accepted : ∀ f ∈ fields, ¬Refused lookup f) (applied : Applied lookup fields c d) :
      Overrides lookup fields c (none, d)
  | upTo {before : List Field} {f : Field} {spelling : String} {d : Config}
      (first : FirstWith (Refused lookup) fields before f) (given : Given lookup f spelling)
      (applied : Applied lookup before c d) :
      Overrides lookup fields c (some (.invalidVariable f.variableName spelling), d)

variable {lookup : String → Option String} {f : Field} {fields : List Field} {spelling spelling' : String}
  {c d e : Config}

theorem Kind.Spells.unique {kind : Kind} {v v' : kind.Value} (h : kind.Spells spelling v)
    (h' : kind.Spells spelling v') : v = v' := by
  rw [← ofVariable?_eq_some_iff] at h h'
  exact Option.some.inj (h.symm.trans h')

theorem Given.unique (h : Given lookup f spelling) (h' : Given lookup f spelling') : spelling = spelling' :=
  Option.some.inj (h.1.symm.trans h'.1)

theorem value?_eq_some_iff : f.toVariable.value? lookup = some spelling ↔ Given lookup f spelling := by
  simp only [Variable.value?, Field.toVariable, Given, Option.filter_eq_some_iff, Bool.not_eq_true',
    List.all_eq_false, Bool.not_eq_true]

theorem exists_spelled_of_not_refused (haccepted : ¬Refused lookup f) (h : Given lookup f spelling) :
    ∃ v, f.kind.Spells spelling v := by
  by_contra hnone
  exact haccepted ⟨spelling, h, not_exists.mp hnone⟩

/-- What one variable does: nothing where it is blank, else it sets its setting or is refused. -/
theorem override_cons_cases (lookup : String → Option String) (f : Field) (rest : List Variable) (c : Config) :
    ((∀ spelling, ¬Given lookup f spelling) ∧
      override lookup (f.toVariable :: rest) c = override lookup rest c) ∨
    (∃ spelling v, Given lookup f spelling ∧ f.kind.Spells spelling v ∧
      override lookup (f.toVariable :: rest) c = override lookup rest (c.put f v)) ∨
    ∃ spelling, Given lookup f spelling ∧ (∀ v, ¬f.kind.Spells spelling v) ∧
      override lookup (f.toVariable :: rest) c = (some (.invalidVariable f.variableName spelling), c) := by
  cases hvalue : f.toVariable.value? lookup with
  | none =>
    refine .inl ⟨fun spelling hgiven => ?_, by rw [override, hvalue]⟩
    rw [value?_eq_some_iff.mpr hgiven] at hvalue
    cases hvalue
  | some spelling =>
    have hgiven := value?_eq_some_iff.mp hvalue
    have hset : f.toVariable.set c spelling = (f.kind.ofVariable? spelling).map (c.put f) := rfl
    cases hread : f.kind.ofVariable? spelling with
    | none =>
      refine .inr (.inr ⟨spelling, hgiven, fun v hspells => ?_, ?_⟩)
      · rw [Kind.ofVariable?_eq_some_iff.mpr hspells] at hread
        cases hread
      · simp only [override, hvalue, hset, hread, Option.map_none]
        rfl
    | some v =>
      refine .inr (.inl ⟨spelling, v, hgiven, Kind.ofVariable?_eq_some_iff.mp hread, ?_⟩)
      simp only [override, hvalue, hset, hread, Option.map_some]

theorem applied_nil (lookup : String → Option String) (c : Config) : Applied lookup [] c c :=
  ⟨fun _ hf => absurd hf List.not_mem_nil, fun _ _ => rfl⟩

theorem Applied.cons_blank (hblank : ∀ spelling, ¬Given lookup f spelling) (h : Applied lookup fields c d) :
    Applied lookup (f :: fields) c d where
  given g hg spelling v hgiven := by
    rcases List.mem_cons.mp hg with rfl | hg
    · exact absurd hgiven (hblank spelling)
    · exact h.given g hg spelling v hgiven
  kept g hg := h.kept g (hg.imp_left fun hnot hmem => hnot (List.mem_cons_of_mem f hmem))

theorem Applied.cons_given {v : f.Value} (hgiven : Given lookup f spelling) (hspells : f.kind.Spells spelling v)
    (hnew : f ∉ fields) (h : Applied lookup fields (c.put f v) d) : Applied lookup (f :: fields) c d where
  given g hg spelling' v' hgiven' hspells' := by
    rcases List.mem_cons.mp hg with rfl | hg
    · obtain rfl := hgiven.unique hgiven'
      rw [h.kept g (.inl hnew), get_put_self, hspells.unique hspells']
    · exact h.given g hg spelling' v' hgiven' hspells'
  kept g hg := by
    have hother : g ≠ f := by
      rintro rfl
      rcases hg with hnot | hblank
      · exact hnot List.mem_cons_self
      · exact hblank spelling hgiven
    rw [h.kept g (hg.imp_left fun hnot hmem => hnot (List.mem_cons_of_mem f hmem)), get_put_of_ne hother]

theorem Applied.again (haccepted : ∀ f ∈ fields, ¬Refused lookup f) (h : Applied lookup fields c d)
    (h' : Applied lookup fields d e) : e = d := by
  refine eq_of_get fun f => ?_
  by_cases hset : f ∈ fields ∧ ∃ spelling, Given lookup f spelling
  · obtain ⟨hmem, spelling, hgiven⟩ := hset
    obtain ⟨v, hspells⟩ := exists_spelled_of_not_refused (haccepted f hmem) hgiven
    rw [h.given f hmem spelling v hgiven hspells, h'.given f hmem spelling v hgiven hspells]
  · exact h'.kept f ((not_and_or.mp hset).imp_right not_exists.mp)

theorem Overrides.cons {outcome : Option ConfigError × Config} (haccepted : ¬Refused lookup f) (hnew : f ∉ fields)
    (hstep : ∀ {before : List Field} {d : Config}, f ∉ before → Applied lookup before e d →
      Applied lookup (f :: before) c d)
    (h : Overrides lookup fields e outcome) : Overrides lookup (f :: fields) c outcome := by
  cases h with
  | through accepted applied => exact .through (List.forall_mem_cons.mpr ⟨haccepted, accepted⟩) (hstep hnew applied)
  | upTo first given applied =>
    have hbefore := fun hmem => hnew (first.starts.subset (List.mem_append_left _ hmem))
    exact .upTo (firstWith_cons_iff.mpr (.inr ⟨haccepted, _, rfl, first⟩)) given (hstep hbefore applied)

/-- A series of variables is applied as far as it is accepted. -/
theorem overrides_override (lookup : String → Option String) (hnodup : fields.Nodup) (c : Config) :
    Overrides lookup fields c (override lookup (fields.map Field.toVariable) c) := by
  induction fields generalizing c with
  | nil => exact .through (List.forall_mem_nil _) (applied_nil lookup c)
  | cons f fields ih =>
    obtain ⟨hnew, hrest⟩ := List.nodup_cons.mp hnodup
    rw [List.map_cons]
    -- An accepted variable changes the settings that the others are applied to, and none of the others sets it again.
    rcases override_cons_cases lookup f (fields.map Field.toVariable) c with
      ⟨hblank, heq⟩ | ⟨spelling, v, hgiven, hspells, heq⟩ | ⟨spelling, hgiven, hrefused, heq⟩ <;> rw [heq]
    · have haccepted : ¬Refused lookup f := fun ⟨spelling, hgiven, _⟩ => hblank spelling hgiven
      exact (ih hrest c).cons haccepted hnew fun _ => .cons_blank hblank
    · have haccepted : ¬Refused lookup f := fun ⟨_, hgiven', hrefused⟩ =>
        hrefused v (hgiven.unique hgiven' ▸ hspells)
      exact (ih hrest (c.put f v)).cons haccepted hnew (.cons_given hgiven hspells)
    · exact .upTo (firstWith_cons_iff.mpr (.inl ⟨⟨spelling, hgiven, hrefused⟩, rfl, rfl⟩)) hgiven (applied_nil lookup c)

theorem overrides_all (lookup : String → Option String) (c : Config) :
    Overrides lookup Field.all c (c.withEnvironment lookup) := by
  rw [withEnvironment, all_eq_map_toVariable]
  exact overrides_override lookup Field.nodup_all c

/-- What is refused does not depend on the settings, and what is applied is applied already. -/
theorem Overrides.again {outcome outcome' : Option ConfigError × Config} (h : Overrides lookup fields c outcome)
    (h' : Overrides lookup fields outcome.2 outcome') : outcome' = outcome := by
  cases h with
  | through accepted applied =>
    cases h' with
    | through _ applied' => rw [applied.again accepted applied']
    | upTo first' => exact absurd first'.holds (accepted _ first'.mem)
  | upTo first given applied =>
    cases h' with
    | through accepted' => exact absurd first.holds (accepted' _ first.mem)
    | upTo first' given' applied' =>
      obtain ⟨rfl, rfl⟩ := first.unique first'
      rw [applied.again first.fresh applied', given.unique given']

theorem Overrides.exists_error_iff {outcome : Option ConfigError × Config} (h : Overrides lookup fields c outcome) :
    (∃ e, outcome.1 = some e) ↔ ∃ f ∈ fields, Refused lookup f := by
  cases h with
  | through accepted => exact iff_of_false nofun fun ⟨f, hf, hrefused⟩ => accepted f hf hrefused
  | upTo first => exact iff_of_true ⟨_, rfl⟩ ⟨_, first.mem, first.holds⟩

/-- Variables override settings in their order up to the first with a value that is refused, which is reported with its
value as it stands. There is an error just where one is refused; blank variables, and in the case of an error those from
the refused one on, change nothing; and the same variables change nothing when they come a second time. -/
theorem withEnvironment_overrides (lookup : String → Option String) (c : Config) :
    let outcome := c.withEnvironment lookup
    ((∃ e, outcome.1 = some e) ↔ ∃ f, Refused lookup f) ∧ Overrides lookup Field.all c outcome ∧
      outcome.2.withEnvironment lookup = outcome := by
  intro outcome
  have hoverrides := overrides_all lookup c
  refine ⟨?_, hoverrides, hoverrides.again (overrides_all lookup outcome.2)⟩
  rw [hoverrides.exists_error_iff]
  exact ⟨fun ⟨f, _, hrefused⟩ => ⟨f, hrefused⟩, fun ⟨f, hrefused⟩ => ⟨f, f.mem_all, hrefused⟩⟩

/-- The port is set and the host is left blank before a word for the number of seconds is refused, and the flag after it
is not looked at. -/
theorem withEnvironment_overrides_port :
    let lookup : String → Option String := fun name =>
      [("COUCHFIND_DEBUG", "ON"), ("COUCHFIND_TIMEOUT_SECS", " ten "), ("COUCHFIND_PORT", " +8080 "),
        ("COUCHFIND_HOST", " ")].lookup name
    let c := default.withEnvironment lookup
    c = (some (.invalidVariable "COUCHFIND_TIMEOUT_SECS" " ten "), { default with port := 8080 }) ∧
      (∃ f, Refused lookup f) ∧ c.2.withEnvironment lookup = c := by
  intro lookup c
  obtain ⟨hrefused, -, hagain⟩ := withEnvironment_overrides lookup default
  have hc : c = (some (.invalidVariable "COUCHFIND_TIMEOUT_SECS" " ten "), { default with port := 8080 }) := by
    decide
  exact ⟨hc, hrefused.mp ⟨_, congrArg Prod.fst hc⟩, hagain⟩

end PagedFind.Config
