import PagedFind.Proofs.Store.History
import Mathlib.Data.List.Nodup
import PagedFind.Regex.Match

namespace PagedFind

namespace StoredIndex

def Marked (ddoc : String) : Prop := designMark.toList <+: ddoc.toList

instance : DecidablePred Marked := fun ddoc => inferInstanceAs (Decidable (designMark.toList <+: ddoc.toList))

theorem designName_of_marked {ddoc : String} (h : Marked ddoc) : designName ddoc = ddoc := by
  rw [designName, if_pos (List.isPrefixOf_iff_prefix.mpr h)]

theorem designName_of_not_marked {ddoc : String} (h : ¬Marked ddoc) : designName ddoc = designMark ++ ddoc := by
  rw [designName, if_neg (mt List.isPrefixOf_iff_prefix.mp h)]

theorem marked_append (ddoc : String) : Marked (designMark ++ ddoc) := by
  rw [Marked, String.toList_append]
  exact List.prefix_append _ _

theorem marked_designName (ddoc : String) : Marked (designName ddoc) := by
  by_cases h : Marked ddoc
  · rw [designName_of_marked h]
    exact h
  · rw [designName_of_not_marked h]
    exact marked_append ddoc

theorem marked_ofSpec (spec : IndexSpec) : Marked (ofSpec spec).ddoc := by
  rcases spec with ⟨fields, name, _ | ddoc⟩
  · exact marked_append _
  · exact marked_designName ddoc

end StoredIndex

/-- The second request writes what the first leaves out: the mark of the design document, or the name that is made of
the fields. -/
inductive IndexSpec.Respelled : IndexSpec → IndexSpec → Prop
  | marked (fields : List String) (name : Option String) {ddoc : String} (h : ¬StoredIndex.Marked ddoc) :
      Respelled ⟨fields, name, some ddoc⟩ ⟨fields, name, some (StoredIndex.designMark ++ ddoc)⟩
  | named (fields : List String) (ddoc : Option String) :
      Respelled ⟨fields, none, ddoc⟩ ⟨fields, some ("idx-" ++ Text.join "-" fields), ddoc⟩

theorem IndexSpec.Respelled.ofSpec_eq {spec spec' : IndexSpec} (h : spec.Respelled spec') :
    StoredIndex.ofSpec spec = StoredIndex.ofSpec spec' := by
  cases h with
  | marked fields name h =>
    simp only [StoredIndex.ofSpec, StoredIndex.designName_of_not_marked h,
      StoredIndex.designName_of_marked (StoredIndex.marked_append _)]
  | named fields ddoc => rfl

namespace Store

section

variable [Regex.Engine] {s : Store} {database : String} {spec spec' : IndexSpec} {outcome : IndexOutcome}

omit [Regex.Engine] in
/-- Only the index that a request describes counts, not how it is written. -/
theorem createIndex_congr (h : StoredIndex.ofSpec spec = StoredIndex.ofSpec spec') :
    s.createIndex database spec = s.createIndex database spec' := by
  simp only [createIndex, h]

def creates (s : Store) (database : String) : Operation → Bool
  | .createIndex other spec => other == database && match (s.createIndex other spec).1 with
    | .ok outcome => outcome.result == .created
    | .error _ => false
  | _ => false

def creations (s : Store) (history : List Operation) (database : String) : Nat :=
  (withPast history).countP fun (past, op) => (s.after past).creates database op

theorem indexes_perform_cases (s : Store) (database : String) (op : Operation) :
    (s.creates database op = false ∧ (s.perform op).indexes database = s.indexes database) ∨
      s.creates database op = true ∧ ∃ index, index ∉ s.indexes database ∧
        (s.perform op).indexes database = s.indexes database ++ [index] := by
  cases op with
  | addDocuments other docs => exact .inl ⟨rfl, indexes_addDocuments docs other⟩
  | createIndex other spec =>
    rcases createIndex_cases s other spec with ⟨-, hcreate⟩ | ⟨c, -, -, hcreate⟩ | ⟨c, hdb, hnew, hcreate⟩
    · exact .inl ⟨by simp [creates, hcreate], by rw [perform, hcreate]⟩
    · exact .inl ⟨by simp [creates, hcreate], by rw [perform, hcreate]⟩
    · by_cases hother : other = database
      · subst hother
        have hindexes := indexes_of_get? hdb
        exact .inr ⟨by simp [creates, hcreate], _, hindexes ▸ hnew, by
          simp [perform, hcreate, indexes, hdb, Entries.get?_put]⟩
      · exact .inl ⟨by simp [creates, hother], by simp [perform, hcreate, indexes, Entries.get?_put, hother]⟩
  | failOn failure => exact .inl ⟨rfl, rfl⟩
  | execute other request => exact .inl ⟨rfl, rfl⟩
  | find other selector options =>
    refine .inl ⟨rfl, ?_⟩
    rw [perform, (answered_find s s.limits other selector options).state]
    rfl

/-- No calls bring an index twice, and they bring as many as they are said to create. -/
theorem indexes_after_nodup (history : List Operation) (hnone : s.indexes database = []) :
    ((s.after history).indexes database).Nodup ∧
      ((s.after history).indexes database).length = s.creations history database := by
  induction history using List.reverseRecOn with
  | nil => simp [hnone, creations, withPast]
  | append_singleton history op ih =>
    obtain ⟨hnodup, hlength⟩ := ih
    rw [creations] at hlength
    rw [after_concat, creations, withPast_concat, List.countP_append, ← hlength]
    rcases indexes_perform_cases (s.after history) database op with
      ⟨hcreates, hindexes⟩ | ⟨hcreates, index, hnew, hindexes⟩
    · rw [hindexes]
      exact ⟨hnodup, by simp [hcreates]⟩
    · rw [hindexes, ← List.concat_eq_append, List.length_concat]
      exact ⟨(List.nodup_concat _ index).mpr ⟨hnew, hnodup⟩, by simp [hcreates]⟩

/-- An index that was created stays, and creating it again finds it. -/
theorem Created.createIndex_again {history : List Operation} (h : s.Created history database spec outcome) :
    (s.after history).createIndex database spec = (.ok ⟨.existing, outcome.id, outcome.name⟩, s.after history) := by
  have hthere : StoredIndex.ofSpec spec ∈ (s.after history).indexes database :=
    (mem_indexes_after history).mpr (.inr ⟨spec, outcome, h, rfl⟩)
  obtain ⟨before, later, -, hcreate⟩ := h
  obtain ⟨hid, hname⟩ := outcome_of_createIndex hcreate
  rcases createIndex_cases (s.after history) database spec with
    ⟨hdb, -⟩ | ⟨c, -, -, hagain⟩ | ⟨c, hdb, hnew, -⟩
  · rw [indexes, hdb] at hthere
    cases hthere
  · rw [hagain, hid, hname]
  · exact absurd (indexes_of_get? hdb ▸ hthere) hnew

/-- After any calls of a new store, no index of a database is there twice, each is in a design document, and there are
as many as calls that were told that they created one. Whatever was created there before is found, by the id and the
name that came back then, and creating it again changes nothing; nor does it matter whether the mark of the design
document, or the name that is made of the fields, is written out. An unknown database is refused and nothing changes. -/
theorem createIndex_after (limits : Limits) (history : List Operation) (database : String) :
    let start := ofLimits limits
    let s := start.after history
    ((s.indexes database).Nodup ∧ (∀ index ∈ s.indexes database, StoredIndex.Marked index.ddoc) ∧
        (s.indexes database).length = start.creations history database) ∧
      (∀ spec outcome, start.Created history database spec outcome →
        s.createIndex database spec = (.ok ⟨.existing, outcome.id, outcome.name⟩, s)) ∧
      (∀ spec spec', IndexSpec.Respelled spec spec' → StoredIndex.ofSpec spec = StoredIndex.ofSpec spec' ∧
        s.createIndex database spec = s.createIndex database spec') ∧
      (s.databases.get? database = none →
        ∀ spec, s.createIndex database spec = (.error .noDatabase, s) ∧ FindError.noDatabase.status? = some 404) := by
  intro start s
  have hnone : start.indexes database = [] := rfl
  obtain ⟨hnodup, hlength⟩ := indexes_after_nodup history hnone
  refine ⟨⟨hnodup, fun index hindex => ?_, hlength⟩, fun spec outcome h => h.createIndex_again,
    fun spec spec' h => ⟨h.ofSpec_eq, createIndex_congr h.ofSpec_eq⟩, fun hdb spec => ⟨?_, rfl⟩⟩
  · rw [mem_indexes_after, hnone] at hindex
    obtain ⟨spec, -, -, rfl⟩ := hindex.resolve_left List.not_mem_nil
    exact StoredIndex.marked_ofSpec spec
  · simp only [createIndex, hdb]

end

/-- An index on age that is asked for three times, in two spellings and with other calls in between, is made once. -/
theorem createIndex_after_twice :
    let spec : IndexSpec := ⟨["age"], none, some "d"⟩
    let marked : IndexSpec := ⟨["age"], none, some "_design/d"⟩
    let before : List Operation := [.createIndex "people" spec, .addDocuments "people" []]
    let later : List Operation :=
      [.failOn ⟨1, 500, "down", "no answer"⟩, .find "people" .everything .default, .createIndex "people" marked]
    let history := before ++ .createIndex "people" spec :: later
    let s := (ofLimits ⟨2, 10⟩).after history
    (ofLimits ⟨2, 10⟩).Created history "people" spec ⟨.created, "_design/d", "idx-age"⟩ ∧ spec.Respelled marked ∧
      s.databases.get? "cats" = none ∧ (s.indexes "people").length = 1 ∧
      s.createIndex "people" spec = (.ok ⟨.existing, "_design/d", "idx-age"⟩, s) ∧
      s.createIndex "people" marked = (.ok ⟨.existing, "_design/d", "idx-age"⟩, s) ∧
      s.createIndex "cats" spec = (.error .noDatabase, s) := by
  intro spec marked before later history s
  have hcreated : (ofLimits ⟨2, 10⟩).Created history "people" spec ⟨.created, "_design/d", "idx-age"⟩ :=
    ⟨before, later, rfl, rfl⟩
  have hrespelled : spec.Respelled marked := .marked ["age"] none (by rw [StoredIndex.Marked]; decide)
  obtain ⟨⟨-, -, hlength⟩, hagain, hspelling, -⟩ := createIndex_after ⟨2, 10⟩ history "people"
  obtain ⟨-, -, -, hunknown⟩ := createIndex_after ⟨2, 10⟩ history "cats"
  have hfirst := hagain spec _ hcreated
  have hsecond := (hspelling spec marked hrespelled).2
  have hcats : s.databases.get? "cats" = none := rfl
  refine ⟨hcreated, hrespelled, hcats, hlength.trans rfl, hfirst, ?_, (hunknown hcats spec).1⟩
  rw [← hsecond]
  exact hfirst

end Store

end PagedFind
