import PagedFind.Proofs.Store.History
import PagedFind.Proofs.Text.Split
import PagedFind.Regex.Match

namespace PagedFind

namespace IndexSpec

def Unnamed (spec : IndexSpec) : Prop := spec.name = none ∧ spec.ddoc = none

/-- What fields have between hyphens. No fields are named like an empty one. -/
def nameParts (fields : List String) : List String :=
  if fields = [] then [""] else fields.flatMap (Text.splitOn '-')

def Unhyphenated (fields : List String) : Prop := fields ≠ [] ∧ ∀ field ∈ fields, '-' ∉ field.toList

instance : DecidablePred Unhyphenated := fun fields =>
  inferInstanceAs (Decidable (fields ≠ [] ∧ ∀ field ∈ fields, '-' ∉ field.toList))

variable {fields fields' : List String}

theorem splitOn_join_hyphen (fields : List String) : Text.splitOn '-' (Text.join "-" fields) = nameParts fields := by
  have hmark : "-".toList = ['-'] := by decide
  by_cases hnone : fields = []
  · rw [nameParts, if_pos hnone, hnone]
    decide
  · rw [nameParts, if_neg hnone, Text.splitOn_join hmark hnone]

theorem join_hyphen_eq_iff : Text.join "-" fields = Text.join "-" fields' ↔ nameParts fields = nameParts fields' := by
  rw [← splitOn_join_hyphen, ← splitOn_join_hyphen]
  exact ⟨congrArg _, Text.splitOn_injective⟩

theorem nameParts_of_unhyphenated (h : Unhyphenated fields) : nameParts fields = fields := by
  obtain ⟨hne, hnone⟩ := h
  rw [nameParts, if_neg hne, List.flatMap_congr fun field hfield => Text.splitOn_of_not_mem (hnone field hfield),
    List.flatMap_singleton']

end IndexSpec

namespace StoredIndex

variable {spec spec' : IndexSpec}

theorem ofSpec_of_unnamed (h : spec.Unnamed) : ofSpec spec =
    ⟨designMark ++ ("idx-" ++ Text.join "-" spec.fields), "idx-" ++ Text.join "-" spec.fields, spec.fields⟩ := by
  obtain ⟨fields, name, ddoc⟩ := spec
  obtain ⟨rfl, rfl⟩ := h
  rfl

theorem name_ofSpec_eq_iff (h : spec.Unnamed) (h' : spec'.Unnamed) :
    (ofSpec spec).name = (ofSpec spec').name ↔
      IndexSpec.nameParts spec.fields = IndexSpec.nameParts spec'.fields := by
  rw [ofSpec_of_unnamed h, ofSpec_of_unnamed h', String.append_right_inj, IndexSpec.join_hyphen_eq_iff]

theorem ddoc_ofSpec_eq_iff (h : spec.Unnamed) (h' : spec'.Unnamed) :
    (ofSpec spec).ddoc = (ofSpec spec').ddoc ↔
      IndexSpec.nameParts spec.fields = IndexSpec.nameParts spec'.fields := by
  rw [ofSpec_of_unnamed h, ofSpec_of_unnamed h', String.append_right_inj, String.append_right_inj,
    IndexSpec.join_hyphen_eq_iff]

end StoredIndex

namespace Store

section

variable [Regex.Engine] {s : Store} {history : List Operation} {database : String}

/-- The id and the name that came back for an index, and hints made of them, tell its fields from those of the other
indexes of the database, but for fields that are the same in some respect. -/
structure Identifies (s : Store) (history : List Operation) (database : String)
    (same : List String → List String → Prop) : Prop where
  outcomes : ∀ spec outcome spec' outcome', s.Created history database spec outcome →
    s.Created history database spec' outcome' →
      ((outcome.id, outcome.name) = (outcome'.id, outcome'.name) ↔ same spec.fields spec'.fields)
  hints : ∀ spec outcome hint, s.Created history database spec outcome →
    hint = .designDoc outcome.id ∨ hint = .named outcome.id outcome.name →
      ∀ index ∈ (s.after history).indexes database, index.isHinted hint = true ↔ same index.fields spec.fields

theorem identifies_nameParts (limits : Limits) (hunnamed : ∀ spec, .createIndex database spec ∈ history → spec.Unnamed) :
    (ofLimits limits).Identifies history database fun fields fields' =>
      IndexSpec.nameParts fields = IndexSpec.nameParts fields' where
  outcomes := by
    intro spec outcome spec' outcome' h h'
    have hopen := hunnamed spec h.mem
    have hopen' := hunnamed spec' h'.mem
    obtain ⟨_, _, -, hok⟩ := h
    obtain ⟨_, _, -, hok'⟩ := h'
    obtain ⟨hid, hname⟩ := outcome_of_createIndex hok
    obtain ⟨hid', hname'⟩ := outcome_of_createIndex hok'
    rw [hid, hname, hid', hname', Prod.mk.injEq, StoredIndex.ddoc_ofSpec_eq_iff hopen hopen',
      StoredIndex.name_ofSpec_eq_iff hopen hopen', and_self]
  hints := by
    intro spec outcome hint h hhint index hindex
    obtain ⟨given, _, hgiven, rfl⟩ := mem_indexes_after_ofLimits.mp hindex
    have hopen := hunnamed spec h.mem
    have hopen' := hunnamed given hgiven.mem
    obtain ⟨_, _, -, hok⟩ := h
    obtain ⟨hid, hname⟩ := outcome_of_createIndex hok
    have hddoc := StoredIndex.ddoc_ofSpec_eq_iff hopen' hopen
    rcases hhint with rfl | rfl
    · rw [StoredIndex.isHinted, beq_iff_eq, hid]
      exact hddoc
    · rw [StoredIndex.isHinted, Bool.and_eq_true, beq_iff_eq, beq_iff_eq, hid, hname, hddoc,
        StoredIndex.name_ofSpec_eq_iff hopen' hopen, and_self]
      rfl

theorem Identifies.congr {limits : Limits} {same same' : List String → List String → Prop}
    (h : (ofLimits limits).Identifies history database same)
    (hsame : ∀ spec spec', .createIndex database spec ∈ history → .createIndex database spec' ∈ history →
      (same spec.fields spec'.fields ↔ same' spec.fields spec'.fields)) :
    (ofLimits limits).Identifies history database same' where
  outcomes := by
    intro spec outcome spec' outcome' hcreated hcreated'
    rw [← hsame spec spec' hcreated.mem hcreated'.mem]
    exact h.outcomes spec outcome spec' outcome' hcreated hcreated'
  hints := by
    intro spec outcome hint hcreated hhint index hindex
    have hhinted := h.hints spec outcome hint hcreated hhint index hindex
    obtain ⟨given, _, hgiven, rfl⟩ := mem_indexes_after_ofLimits.mp hindex
    rw [hhinted]
    exact hsame given spec hgiven.mem hcreated.mem

/-- After any calls of a new store that give the indexes of a database no names, two of its indexes go by the same id and
name, and by the same hints, just where their fields have the same parts between hyphens. So each goes by its own where
no field has a hyphen. -/
theorem identifies_after (limits : Limits) (history : List Operation) (database : String)
    (hunnamed : ∀ spec, .createIndex database spec ∈ history → spec.Unnamed) :
    ((ofLimits limits).Identifies history database fun fields fields' =>
        IndexSpec.nameParts fields = IndexSpec.nameParts fields') ∧
      ((∀ spec, .createIndex database spec ∈ history → IndexSpec.Unhyphenated spec.fields) →
        (ofLimits limits).Identifies history database (· = ·)) := by
  have hparts := identifies_nameParts limits hunnamed
  refine ⟨hparts, fun hplain => hparts.congr fun spec spec' hspec hspec' => ?_⟩
  rw [IndexSpec.nameParts_of_unhyphenated (hplain spec hspec), IndexSpec.nameParts_of_unhyphenated (hplain spec' hspec')]

end

/-- An index on `last-name` and one on last, name and age go by ids of their own. Where the fields have no hyphens, the
design document that came back for the index on age is hinted at for no other fields. -/
theorem identifies_after_age :
    let start := ofLimits ⟨2, 10⟩
    let request (fields : List String) : Operation := .createIndex "people" ⟨fields, none, none⟩
    let people : Operation := .addDocuments "people" [.object [("_id", .string "a")]]
    let hyphened : List Operation := [people, request ["last-name"], request ["last", "name", "age"]]
    let plain : List Operation := [people, request ["age"], request ["name", "age"]]
    (∀ outcome outcome', start.Created hyphened "people" ⟨["last-name"], none, none⟩ outcome →
        start.Created hyphened "people" ⟨["last", "name", "age"], none, none⟩ outcome' →
          (outcome.id, outcome.name) ≠ (outcome'.id, outcome'.name)) ∧
      start.Created plain "people" ⟨["age"], none, none⟩ ⟨.created, "_design/idx-age", "idx-age"⟩ ∧
      ∀ index ∈ (start.after plain).indexes "people",
        index.isHinted (.designDoc "_design/idx-age") = true ↔ index.fields = ["age"] := by
  intro start request people hyphened plain
  have hmem (fields fields' : List String) (spec : IndexSpec)
      (h : .createIndex "people" spec ∈ [people, request fields, request fields']) :
      spec = ⟨fields, none, none⟩ ∨ spec = ⟨fields', none, none⟩ := by
    simpa [people, request] using h
  have hhyphened : ∀ spec, .createIndex "people" spec ∈ hyphened → spec.Unnamed := by
    intro spec hspec
    rcases hmem _ _ spec hspec with rfl | rfl <;> exact ⟨rfl, rfl⟩
  have hplain : ∀ spec, .createIndex "people" spec ∈ plain → spec.Unnamed ∧ IndexSpec.Unhyphenated spec.fields := by
    intro spec hspec
    rcases hmem _ _ spec hspec with rfl | rfl <;> exact ⟨⟨rfl, rfl⟩, by decide⟩
  obtain ⟨hparts, -⟩ := identifies_after ⟨2, 10⟩ hyphened "people" hhyphened
  obtain ⟨-, hfields⟩ := identifies_after ⟨2, 10⟩ plain "people" fun spec hspec => (hplain spec hspec).1
  have hage : start.Created plain "people" ⟨["age"], none, none⟩ ⟨.created, "_design/idx-age", "idx-age"⟩ :=
    ⟨[people], _, rfl, rfl⟩
  refine ⟨fun outcome outcome' h h' => ?_, hage, ?_⟩
  · exact mt (hparts.outcomes _ _ _ _ h h').mp (by decide)
  · exact (hfields fun spec hspec => (hplain spec hspec).2).hints _ _ _ hage (.inl rfl)

/-- An index on a and b and one on the field `a-b` are both created, under one id and name, and the hint that is made of
these is at both. -/
theorem identity_of_two_indexes :
    let two : IndexSpec := ⟨["a", "b"], none, none⟩
    let one : IndexSpec := ⟨["a-b"], none, none⟩
    let history : List Operation := [.addDocuments "people" [.object [("_id", .string "a")]],
      .createIndex "people" two, .createIndex "people" one]
    let outcome : IndexOutcome := ⟨.created, "_design/idx-a-b", "idx-a-b"⟩
    IndexSpec.ofFields ["a", "b"] = .ok two ∧ IndexSpec.ofFields ["a-b"] = .ok one ∧ two.fields ≠ one.fields ∧
      (ofLimits ⟨2, 10⟩).Created history "people" two outcome ∧
      (ofLimits ⟨2, 10⟩).Created history "people" one outcome ∧
      (((ofLimits ⟨2, 10⟩).after history).indexes "people").map (·.isHinted (.named outcome.id outcome.name)) =
        [true, true] := by
  intro two one history outcome
  exact ⟨rfl, rfl, by decide, ⟨history.take 1, _, rfl, rfl⟩, ⟨history.take 2, _, rfl, rfl⟩, rfl⟩

end Store

end PagedFind
