import PagedFind.Proofs.Store.Creation
import PagedFind.Proofs.Store.Indexes
import PagedFind.Regex.Match

namespace PagedFind

def IndexHint.notice (hint : IndexHint) : String :=
  hint.label ++ " was not used because it does not contain a valid index for this query."

def IndexHint.ddoc : IndexHint → String
  | .designDoc ddoc => ddoc
  | .named ddoc _ => ddoc

theorem StoredIndex.ddoc_of_isHinted {index : StoredIndex} {hint : IndexHint} (h : index.isHinted hint = true) :
    index.ddoc = hint.ddoc := by
  cases hint with
  | designDoc ddoc => exact beq_iff_eq.mp h
  | named ddoc name => exact beq_iff_eq.mp (Bool.and_eq_true_iff.mp h).1

theorem Collection.warning?_of_unknown {c : Collection} {hint : IndexHint}
    (h : ∀ index ∈ c.indexes, ¬index.isHinted hint = true) : c.warning? (some hint) = some hint.notice := by
  have hany : c.indexes.any (·.isHinted hint) = false := List.any_eq_false.mpr h
  simp [warning?, Option.filter, hany, IndexHint.notice]

namespace Store

section

variable [Regex.Engine] {s : Store} {database : String} {hint : IndexHint} {history : List Operation}

theorem warning_of_unknown {request : FindRequest} (h : ∀ index ∈ s.indexes database, ¬index.isHinted hint = true)
    (huse : request.useIndex = some hint) {page : Page} (hok : (s.execute database request).1 = .ok page) :
    page.warning = some hint.notice := by
  obtain ⟨c, hdb, hwarning⟩ := warning_of_execute hok
  rw [hwarning, huse]
  exact Collection.warning?_of_unknown (indexes_of_get? hdb ▸ h)

theorem find_warns_of_unknown (h : ∀ index ∈ s.indexes database, ¬index.isHinted hint = true) (limits : Limits)
    (selector : Selector) {options : QueryOptions} (huse : options.useIndex = some hint) :
    (find (Store.backend limits) database selector options s).1.result.Warns (some hint.notice) := by
  refine find_warns_of_warning (fun c hdb => ?_) limits selector
  rw [huse]
  exact Collection.warning?_of_unknown (indexes_of_get? hdb ▸ h)

theorem marked_after {limits : Limits} {index : StoredIndex}
    (h : index ∈ ((ofLimits limits).after history).indexes database) : StoredIndex.Marked index.ddoc := by
  obtain ⟨spec, -, -, rfl⟩ := mem_indexes_after_ofLimits.mp h
  exact StoredIndex.marked_ofSpec spec

theorem not_isHinted_after {limits : Limits} (h : ¬StoredIndex.Marked hint.ddoc) :
    ∀ index ∈ ((ofLimits limits).after history).indexes database, ¬index.isHinted hint = true := by
  intro index hindex hhinted
  -- The design document of the hint would be that of the index, which bears the mark.
  rw [← StoredIndex.ddoc_of_isHinted hhinted] at h
  exact h (marked_after hindex)

/-- An index that was created in a design document is there under the very name it was asked for by, where that name
bears the mark. -/
theorem Created.exists_hinted_in_designDoc {spec : IndexSpec} {ddoc : String} {outcome : IndexOutcome}
    (h : s.Created history database (spec.inDesignDoc ddoc) outcome) (hmarked : StoredIndex.Marked ddoc)
    (hhint : hint = .designDoc ddoc ∨ hint = .named ddoc outcome.name) :
    ∃ index ∈ (s.after history).indexes database, index.isHinted hint = true := by
  have hid : outcome.id = ddoc := by
    obtain ⟨before, later, -, hcreate⟩ := h
    rw [(outcome_of_createIndex hcreate).1]
    exact StoredIndex.designName_of_marked hmarked
  exact h.exists_hinted (by rwa [hid])

/-- An index that was created in a design document is hinted at by the same name of that, alone or with the name of the
index that came back, where the name bears the mark: no page and no round of a find warns then. By a name without the
mark no index is hinted at: every page that is answered says that the hint was not used, and so does every round of a
find. -/
theorem hinted_in_designDoc (limits : Limits) (history : List Operation) (database : String) (spec : IndexSpec)
    (ddoc : String) (outcome : IndexOutcome) (hint : IndexHint)
    (hcreated : (ofLimits limits).Created history database (spec.inDesignDoc ddoc) outcome)
    (hhint : hint = .designDoc ddoc ∨ hint = .named ddoc outcome.name) :
    let s := (ofLimits limits).after history
    (∀ request page, request.useIndex = some hint → (s.execute database request).1 = .ok page →
      (StoredIndex.Marked ddoc → page.warning = none) ∧
        (¬StoredIndex.Marked ddoc → page.warning = some hint.notice)) ∧
    ∀ selector options, options.useIndex = some hint →
      let result := (find (Store.backend s.limits) database selector options s).1.result
      (StoredIndex.Marked ddoc → result.warnings = []) ∧
        (¬StoredIndex.Marked ddoc → result.warnings = List.replicate result.rounds hint.notice) := by
  intro s
  have hddoc : hint.ddoc = ddoc := by
    rcases hhint with rfl | rfl <;> rfl
  have hunknown (hnot : ¬StoredIndex.Marked ddoc) : ∀ index ∈ s.indexes database, ¬index.isHinted hint = true :=
    not_isHinted_after (hddoc ▸ hnot)
  refine ⟨fun request page huse hok => ⟨fun hmarked => ?_, fun hnot => warning_of_unknown (hunknown hnot) huse hok⟩,
    fun selector options huse => ⟨fun hmarked => ?_, fun hnot => ?_⟩⟩
  · obtain ⟨index, hindex, hhinted⟩ := hcreated.exists_hinted_in_designDoc hmarked hhint
    exact warning_of_hinted hindex hhinted huse hok
  · obtain ⟨index, hindex, hhinted⟩ := hcreated.exists_hinted_in_designDoc hmarked hhint
    exact find_warnings_of_hinted hindex hhinted s.limits selector huse
  · exact ResultSet.warns_some_iff.mp (find_warns_of_unknown (hunknown hnot) s.limits selector huse)

end

/-- An index on age in the design document `_design/ages` is hinted at by this name, and by the pair of it and the name
that came back. One that was asked for in `cats` is hinted at by neither. -/
theorem hinted_in_designDoc_ages :
    let ages : IndexSpec := ⟨["age"], none, some "_design/ages"⟩
    let cats : IndexSpec := ⟨["age"], none, some "cats"⟩
    let history : List Operation := [.addDocuments "people" [.object [("_id", .string "a")]],
      .createIndex "people" ages, .failOn ⟨3, 500, "down", "no answer"⟩, .createIndex "people" cats]
    let s := (ofLimits ⟨2, 10⟩).after history
    let ask (hint : IndexHint) : FindRequest := ⟨.object [], none, none, none, none, some hint, false⟩
    let hinted (hint : IndexHint) : QueryOptions := { QueryOptions.default with useIndex := some hint }
    let results (hint : IndexHint) := (find (Store.backend s.limits) "people" .everything (hinted hint) s).1.result
    (∀ page, (s.execute "people" (ask (.designDoc "_design/ages"))).1 = .ok page → page.warning = none) ∧
      (results (.named "_design/ages" "idx-age")).warnings = [] ∧
      (∀ page, (s.execute "people" (ask (.named "cats" "idx-age"))).1 = .ok page → page.warning =
        some "cats, idx-age was not used because it does not contain a valid index for this query.") ∧
      (results (.designDoc "cats")).warnings = List.replicate (results (.designDoc "cats")).rounds
        "cats was not used because it does not contain a valid index for this query." := by
  intro ages cats history s ask hinted results
  have hages : (ofLimits ⟨2, 10⟩).Created history "people" (ages.inDesignDoc "_design/ages")
      ⟨.created, "_design/ages", "idx-age"⟩ := ⟨[history[0]], _, rfl, rfl⟩
  have hcats : (ofLimits ⟨2, 10⟩).Created history "people" (cats.inDesignDoc "cats")
      ⟨.created, "_design/cats", "idx-age"⟩ := ⟨history.take 3, [], rfl, rfl⟩
  have hmarked : StoredIndex.Marked "_design/ages" := by decide
  have hnot : ¬StoredIndex.Marked "cats" := by decide
  have hpage := (hinted_in_designDoc ⟨2, 10⟩ history "people" ages _ _ (.designDoc "_design/ages") hages (.inl rfl)).1
  have hfind := (hinted_in_designDoc ⟨2, 10⟩ history "people" ages _ _ (.named "_design/ages" "idx-age") hages
    (.inr rfl)).2
  have hpage' := (hinted_in_designDoc ⟨2, 10⟩ history "people" cats _ _ (.named "cats" "idx-age") hcats (.inr rfl)).1
  have hfind' := (hinted_in_designDoc ⟨2, 10⟩ history "people" cats _ _ (.designDoc "cats") hcats (.inl rfl)).2
  exact ⟨fun page hok => (hpage _ page rfl hok).1 hmarked, (hfind .everything (hinted _) rfl).1 hmarked,
    fun page hok => (hpage' _ page rfl hok).2 hnot, (hfind' .everything (hinted _) rfl).2 hnot⟩

/-- An index is created in the design document `ages`, and a find with a hint at `ages` is told that it was not used. -/
theorem hint_in_designDoc_unused :
    let spec := IndexSpec.inDesignDoc ⟨["age"], none, none⟩ "ages"
    let history : List Operation :=
      [.addDocuments "people" [.object [("_id", .string "a")]], .createIndex "people" spec]
    let s := (ofLimits ⟨2, 10⟩).after history
    let hinted : QueryOptions := { QueryOptions.default with useIndex := some (.designDoc "ages") }
    (ofLimits ⟨2, 10⟩).Created history "people" spec ⟨.created, "_design/ages", "idx-age"⟩ ∧
      (find (Store.backend s.limits) "people" ⟨.present "_id", rfl⟩ hinted s).1.result.warnings =
        ["ages was not used because it does not contain a valid index for this query."] := by
  intro spec history s hinted
  refine ⟨⟨[history[0]], [], rfl, rfl⟩, ?_⟩
  decide +kernel

end Store

end PagedFind
