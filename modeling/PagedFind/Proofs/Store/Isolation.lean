import PagedFind.Proofs.Store.Calls
import Mathlib.Data.Set.Insert
import Mathlib.Logic.Relation
import PagedFind.Regex.Match

namespace PagedFind

namespace Collection

variable {c c' : Collection} {hint : Option IndexHint}

theorem any_indexes_congr (hindexes : ∀ index, index ∈ c.indexes ↔ index ∈ c'.indexes) (test : StoredIndex → Bool) :
    c.indexes.any test = c'.indexes.any test := by
  rw [Bool.eq_iff_iff, List.any_eq_true, List.any_eq_true]
  simp only [hindexes]

theorem checkSort_congr (hindexes : ∀ index, index ∈ c.indexes ↔ index ∈ c'.indexes)
    (sort : Option (List SortField)) : c.checkSort sort = c'.checkSort sort := by
  cases sort with
  | none => rfl
  | some sort => simp only [checkSort, any_indexes_congr hindexes]

theorem warning?_congr (hindexes : ∀ index, index ∈ c.indexes ↔ index ∈ c'.indexes) :
    c.warning? hint = c'.warning? hint := by
  have hempty : c.indexes.isEmpty = c'.indexes.isEmpty := by
    rw [Bool.eq_iff_iff, List.isEmpty_iff, List.isEmpty_iff, List.eq_nil_iff_forall_not_mem,
      List.eq_nil_iff_forall_not_mem]
    simp only [hindexes]
  simp only [warning?, any_indexes_congr hindexes, hempty]

variable [Regex.Engine]

theorem page_congr {request : FindRequest} (hindexes : ∀ index, index ∈ c.indexes ↔ index ∈ c'.indexes)
    (hselected : c.selected request = c'.selected request) (pageLimit : Nat) :
    c.page pageLimit request = c'.page pageLimit request := by
  simp only [page, checkSort_congr hindexes, hselected, warning?_congr hindexes]

/-- What finds can tell of a collection: its documents in their order, and which indexes it has. -/
def content (c : Collection) : List Json × Set StoredIndex := (c.documents, {index | index ∈ c.indexes})

theorem page_eq_of_content_eq (h : c.content = c'.content) (pageLimit : Nat) (request : FindRequest) :
    c.page pageLimit request = c'.page pageLimit request := by
  obtain ⟨hdocuments, hindexes⟩ := Prod.mk.inj h
  refine page_congr (fun index => Set.ext_iff.mp hindexes index) ?_ pageLimit
  simp only [selected, hdocuments]

omit [Regex.Engine] in
theorem content_withDocuments (c : Collection) (docs : List Json) :
    (c.withDocuments docs).content = (c.content.1 ++ docs, c.content.2) := rfl

omit [Regex.Engine] in
theorem content_withIndex (c : Collection) (index : StoredIndex) :
    (c.withIndex index).content = (c.content.1, insert index c.content.2) := by
  unfold withIndex
  split
  next hthere =>
    have hmem : index ∈ c.content.2 := hthere
    rw [Set.insert_eq_of_mem hmem]
  next =>
    refine congrArg (Prod.mk c.documents) (Set.ext fun other => ?_)
    simp [content, or_comm]

end Collection

namespace Store

section

variable [Regex.Engine] {s t start : Store} {database : String} {selector : Selector} {options : QueryOptions}
  {history history' : List Operation}

theorem execute_called_of_quiet (limits : Limits) (hquiet : ∀ n, s.QuietFor n) (n : Nat) (request : FindRequest) :
    (Store.backend limits).execute database request (s.called n) =
      (⟨s.withoutFailure.answer database request, []⟩, s.called (n + 1)) := by
  have hanswer : (s.called n).answer database request = s.withoutFailure.answer database request :=
    answer_of_quietFor (hquiet (n + 1)).called database request
  simp only [Store.backend, Store.execute, hanswer]
  exact congrArg (Prod.mk _) (called_called s n 1)

/-- Finds of two stores, with no failure to come, go the same way where the stores answer all that is asked alike. -/
theorem find_eq_of_answer_eq (hlimits : s.limits = t.limits) (hs : ∀ n, s.QuietFor n) (ht : ∀ n, t.QuietFor n)
    (hanswer : ∀ size bookmark, let request := (FindRequest.base selector options).forRound size bookmark
      s.withoutFailure.answer database request = t.withoutFailure.answer database request) :
    (PagedFind.find (Store.backend s.limits) database selector options s).1 =
      (PagedFind.find (Store.backend t.limits) database selector options t).1 := by
  rw [hlimits]
  refine find_congr (fun s' t' => ∃ n, s' = s.called n ∧ t' = t.called n) ?_ ⟨0, rfl, rfl⟩
  rintro size bookmark _ _ ⟨n, rfl, rfl⟩ request
  rw [execute_called_of_quiet t.limits hs, execute_called_of_quiet t.limits ht, hanswer]
  exact ⟨rfl, n + 1, rfl, rfl⟩

theorem limits_after (s : Store) (history : List Operation) : (s.after history).limits = s.limits := by
  induction history generalizing s with
  | nil => rfl
  | cons op history ih => exact (ih (s.perform op)).trans (sameBut_perform s op).limits

theorem lastPlanned_eq_none (h : ∀ f, Operation.failOn f ∉ history) : lastPlanned history = none := by
  have hnone : history.filterMap Operation.failure? = [] := by
    refine List.filterMap_eq_nil_iff.mpr fun op hop => ?_
    cases op with
    | failOn f => exact absurd hop (h f)
    | _ => rfl
  rw [lastPlanned, hnone]
  rfl

/-- A call that a database does not notice: it is about another one, or only asks. -/
def Operation.Unnoticed (database : String) : Operation → Prop
  | .addDocuments other _ => other ≠ database
  | .createIndex other _ => other ≠ database
  | .failOn _ => False
  | .execute _ _ => True
  | .find _ _ _ => True

/-- The second history differs from the first in one place: a call that the database does not notice is left out, its
documents are added in two calls instead of one, or an index is created after documents were added, or after another
index was created, and not before. -/
inductive Rearranged (start : Store) (database : String) : List Operation → List Operation → Prop
  | delete (before later : List Operation) {op : Operation} (h : op.Unnoticed database) :
      Rearranged start database (before ++ op :: later) (before ++ later)
  | split (before later : List Operation) (first second : List Json) :
      Rearranged start database (before ++ .addDocuments database (first ++ second) :: later)
        (before ++ .addDocuments database first :: .addDocuments database second :: later)
  | move (before later : List Operation) (spec : IndexSpec) (docs : List Json)
      (there : ∃ c, (start.after before).databases.get? database = some c) :
      Rearranged start database (before ++ .createIndex database spec :: .addDocuments database docs :: later)
        (before ++ .addDocuments database docs :: .createIndex database spec :: later)
  | swap (before later : List Operation) (spec spec' : IndexSpec) :
      Rearranged start database (before ++ .createIndex database spec :: .createIndex database spec' :: later)
        (before ++ .createIndex database spec' :: .createIndex database spec :: later)

theorem Operation.Unnoticed.effect_eq {op : Operation} (h : op.Unnoticed database) (c : Option Collection) :
    Operation.effect database c op = c := by
  cases op with
  | addDocuments other docs => exact if_neg h
  | createIndex other spec => exact if_neg h
  | failOn f => cases h
  | execute other request => rfl
  | find other selector options => rfl

theorem Operation.Unnoticed.failure?_eq {op : Operation} (h : op.Unnoticed database) : op.failure? = none := by
  cases op with
  | failOn f => cases h
  | _ => rfl

theorem Operation.content_effect_congr {c c' : Option Collection}
    (h : c.map Collection.content = c'.map Collection.content) (op : Operation) :
    (op.effect database c).map Collection.content = (op.effect database c').map Collection.content := by
  cases op with
  | addDocuments other docs =>
    rw [Operation.effect, Operation.effect]
    split
    · have hdefault : (c.getD .empty).content = (c'.getD .empty).content := by
        rw [← Option.getD_map Collection.content, ← Option.getD_map Collection.content, h]
      rw [Option.map_some, Option.map_some, Collection.content_withDocuments, Collection.content_withDocuments,
        hdefault]
    · exact h
  | createIndex other spec =>
    rw [Operation.effect, Operation.effect]
    split
    · have hread (c : Option Collection) : (c.map (·.withIndex (.ofSpec spec))).map Collection.content
          = (c.map Collection.content).map fun v => (v.1, insert (.ofSpec spec) v.2) := by
        rw [Option.map_map, Option.map_map]
        exact congrArg (c.map ·) (funext fun c => c.content_withIndex _)
      rw [hread, hread, h]
    · exact h
  | failOn f => exact h
  | execute other request => exact h
  | find other selector options => exact h

theorem content_foldl_effect_congr (later : List Operation) {c c' : Option Collection}
    (h : c.map Collection.content = c'.map Collection.content) :
    (later.foldl (Operation.effect database) c).map Collection.content
      = (later.foldl (Operation.effect database) c').map Collection.content := by
  induction later generalizing c c' with
  | nil => exact h
  | cons op later ih => exact ih (op.content_effect_congr h)

def content? (s : Store) (database : String) : Option (List Json × Set StoredIndex) :=
  (s.databases.get? database).map Collection.content

/-- The content of a database is the same after both histories. -/
theorem Rearranged.content?_eq (h : Rearranged start database history history') :
    (start.after history).content? database = (start.after history').content? database := by
  unfold content?
  rw [get?_after, get?_after]
  cases h with
  | delete before later h => rw [List.foldl_append, List.foldl_append, List.foldl_cons, h.effect_eq]
  | split before later first second =>
    rw [List.foldl_append, List.foldl_append]
    refine content_foldl_effect_congr later ?_
    simp [Operation.effect, Collection.content_withDocuments]
  | move before later spec docs there =>
    obtain ⟨c, hc⟩ := there
    rw [get?_after] at hc
    rw [List.foldl_append, List.foldl_append, hc]
    refine content_foldl_effect_congr later ?_
    simp [Operation.effect, Collection.content_withDocuments, Collection.content_withIndex]
  | swap before later spec spec' =>
    rw [List.foldl_append, List.foldl_append]
    refine content_foldl_effect_congr later ?_
    cases before.foldl (Operation.effect database) (start.databases.get? database) with
    | none => simp [Operation.effect]
    | some c => simp [Operation.effect, Collection.content_withIndex, Set.insert_comm]

theorem Rearranged.lastPlanned_eq (h : Rearranged start database history history') :
    lastPlanned history = lastPlanned history' := by
  cases h with
  | delete before later h => simp only [lastPlanned, List.filterMap_append, List.filterMap_cons, h.failure?_eq]
  | split before later first second =>
    simp only [lastPlanned, List.filterMap_append, List.filterMap_cons, Operation.failure?]
  | move before later spec docs there =>
    simp only [lastPlanned, List.filterMap_append, List.filterMap_cons, Operation.failure?]
  | swap before later spec spec' =>
    simp only [lastPlanned, List.filterMap_append, List.filterMap_cons, Operation.failure?]

theorem content?_eq_of_rearranged (h : Relation.EqvGen (Rearranged start database) history history') :
    (start.after history).content? database = (start.after history').content? database ∧
      lastPlanned history = lastPlanned history' := by
  induction h with
  | rel _ _ step => exact ⟨step.content?_eq, step.lastPlanned_eq⟩
  | refl _ => exact ⟨rfl, rfl⟩
  | symm _ _ _ ih => exact ⟨ih.1.symm, ih.2.symm⟩
  | trans _ _ _ _ _ first second => exact ⟨first.1.trans second.1, first.2.trans second.2⟩

theorem answer_eq_of_content?_eq (hlimits : s.limits = t.limits) (h : s.content? database = t.content? database)
    (request : FindRequest) :
    s.withoutFailure.answer database request = t.withoutFailure.answer database request := by
  unfold content? at h
  rw [answer_withoutFailure, answer_withoutFailure, hlimits]
  cases hs : s.databases.get? database with
  | none =>
    rw [hs] at h
    rw [Option.map_eq_none_iff.mp h.symm]
  | some c =>
    rw [hs] at h
    obtain ⟨c', ht, hcontent⟩ := Option.map_eq_some_iff.mp h.symm
    rw [ht]
    exact Collection.page_eq_of_content_eq hcontent.symm _ request

/-- With no failure planned, a find comes to the same, all its calls, its result and its log, whatever calls that its
database does not notice are left out of the history before it or put into it, however its documents are split over
calls, in whatever order its indexes are created, and whether before or after documents are added to it. -/
theorem find_eq_of_rearranged (start : Store) (hstart : start.failure = none) (database : String)
    (hrearranged : Relation.EqvGen (Rearranged start database) history history')
    (hplain : ∀ f, Operation.failOn f ∉ history) (selector : Selector) (options : QueryOptions) :
    let s := start.after history
    let t := start.after history'
    (PagedFind.find (Store.backend s.limits) database selector options s).1 =
      (PagedFind.find (Store.backend t.limits) database selector options t).1 := by
  intro s t
  obtain ⟨hcontent, hplanned⟩ := content?_eq_of_rearranged hrearranged
  have hlimits : s.limits = t.limits := (limits_after start history).trans (limits_after start history').symm
  have hnone := lastPlanned_eq_none hplain
  have hs : s.failure = none := by rw [failure_after, hnone, hstart]; rfl
  have ht : t.failure = none := by rw [failure_after, ← hplanned, hnone, hstart]; rfl
  refine find_eq_of_answer_eq hlimits (quietFor_of_failure_eq_none hs) (quietFor_of_failure_eq_none ht) ?_
  exact fun size bookmark => answer_eq_of_content?_eq hlimits hcontent _

end

/-- Two people who are added after an index was created, with cats and a query in between, are found as when they are
added one by one and before. -/
theorem find_eq_of_rearranged_people :
    let a : Json := .object [("_id", .string "a")]
    let b : Json := .object [("_id", .string "b")]
    let spec : IndexSpec := ⟨["age"], none, none⟩
    let start := ofLimits ⟨2, 10⟩
    let history : List Operation := [.addDocuments "people" [], .addDocuments "cats" [a], .createIndex "people" spec,
      .find "people" .everything .default, .addDocuments "people" [a, b]]
    let history' : List Operation := [.addDocuments "people" [], .addDocuments "people" [a],
      .addDocuments "people" [b], .createIndex "people" spec]
    let s := start.after history
    let t := start.after history'
    start.failure = none ∧ Relation.EqvGen (Rearranged start "people") history history' ∧
      (∀ f, Operation.failOn f ∉ history) ∧
      (PagedFind.find (Store.backend s.limits) "people" .everything .default s).1.result =
        (PagedFind.find (Store.backend t.limits) "people" .everything .default t).1.result := by
  intro a b spec start history history' s t
  have hcats : Rearranged start "people" history [.addDocuments "people" [], .createIndex "people" spec,
      .find "people" .everything .default, .addDocuments "people" [a, b]] :=
    .delete [.addDocuments "people" []] _ (show "cats" ≠ "people" by decide)
  have hquery : Rearranged start "people" [.addDocuments "people" [], .createIndex "people" spec,
      .find "people" .everything .default, .addDocuments "people" [a, b]]
      [.addDocuments "people" [], .createIndex "people" spec, .addDocuments "people" [a, b]] :=
    .delete [.addDocuments "people" [], .createIndex "people" spec] _ trivial
  have hindex : Rearranged start "people"
      [.addDocuments "people" [], .createIndex "people" spec, .addDocuments "people" [a, b]]
      [.addDocuments "people" [], .addDocuments "people" [a, b], .createIndex "people" spec] :=
    .move [.addDocuments "people" []] [] spec [a, b] ⟨_, rfl⟩
  have hdocuments : Rearranged start "people"
      [.addDocuments "people" [], .addDocuments "people" [a, b], .createIndex "people" spec] history' :=
    .split [.addDocuments "people" []] [.createIndex "people" spec] [a] [b]
  have hrearranged : Relation.EqvGen (Rearranged start "people") history history' :=
    .trans _ _ _ (.rel _ _ hcats) (.trans _ _ _ (.rel _ _ hquery)
      (.trans _ _ _ (.rel _ _ hindex) (.rel _ _ hdocuments)))
  have hplain : ∀ f, Operation.failOn f ∉ history := by simp [history]
  exact ⟨rfl, hrearranged, hplain, congrArg Run.result
    (find_eq_of_rearranged start rfl "people" hrearranged hplain .everything .default)⟩

end Store

end PagedFind
