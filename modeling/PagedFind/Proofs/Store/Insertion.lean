import PagedFind.Proofs.Store.Isolation
import PagedFind.Regex.Match

namespace PagedFind

namespace Collection

variable [Regex.Engine] {c c' : Collection} {request : FindRequest}

theorem selected_eq_of_perm (hperm : c.documents.Perm c'.documents)
    (hdistinct : (c.documents.filter request.selector.isMatch).Pairwise fun a b =>
      ¬SortField.SameKeys (request.sort.getD SortField.byId) a b) : c.selected request = c'.selected request :=
  SortField.sort_eq_of_perm (hperm.filter _) hdistinct

theorem page_eq_of_perm (hindexes : ∀ index, index ∈ c.indexes ↔ index ∈ c'.indexes)
    (hperm : c.documents.Perm c'.documents)
    (hdistinct : (c.documents.filter request.selector.isMatch).Pairwise fun a b =>
      ¬SortField.SameKeys (request.sort.getD SortField.byId) a b) (pageLimit : Nat) :
    c.page pageLimit request = c'.page pageLimit request :=
  page_congr hindexes (selected_eq_of_perm hperm hdistinct) pageLimit

end Collection

namespace Store

/-- Finds over two stores with the same limits, whose database has the same indexes and the same documents in any two
orders, come to the same, all their calls, their result and their log, where no two of the documents that are selected
are equal in what they are sorted by. -/
theorem find_eq_of_perm [Regex.Engine] (s t : Store) (database : String) (c c' : Collection) (selector : Selector)
    (options : QueryOptions) (hlimits : s.limits = t.limits) (hs : s.databases.get? database = some c)
    (ht : t.databases.get? database = some c') (hindexes : ∀ index, index ∈ c.indexes ↔ index ∈ c'.indexes)
    (hperm : c.documents.Perm c'.documents)
    (hdistinct : (c.documents.filter selector.document.isMatch).Pairwise fun a b =>
      ¬SortField.SameKeys (options.sort.getD SortField.byId) a b)
    (hquiet : ∀ n, s.QuietFor n) (hquiet' : ∀ n, t.QuietFor n) :
    (PagedFind.find (Store.backend s.limits) database selector options s).1 =
      (PagedFind.find (Store.backend t.limits) database selector options t).1 := by
  refine find_eq_of_answer_eq hlimits hquiet hquiet' ?_
  intro size bookmark request
  have hpage : c.page t.limits.maxPageSize request = c'.page t.limits.maxPageSize request :=
    Collection.page_eq_of_perm hindexes hperm hdistinct _
  rw [answer_withoutFailure, answer_withoutFailure, hs, ht, hlimits]
  exact hpage

/-- Three people by age, oldest first, are found alike whether they were added at once or in two calls and another
order, one of them with an age that is null and one with none at all that is not selected. -/
theorem find_eq_of_perm_batches :
    let a : Json := .object [("_id", .string "a"), ("age", .nat 30)]
    let b : Json := .object [("_id", .string "b"), ("age", .null)]
    let d : Json := .object [("_id", .string "d")]
    let index : Operation := .createIndex "people" ⟨["age"], none, none⟩
    let s := (ofLimits ⟨1, 10⟩).after [.addDocuments "people" [a, b, d], index]
    let t := (ofLimits ⟨1, 10⟩).after [.addDocuments "people" [d], index, .addDocuments "people" [b, a]]
    let selector : Selector := ⟨.present "age", rfl⟩
    let options : QueryOptions :=
      { QueryOptions.default with sort := some [⟨"age", .descending⟩], limit := some 5 }
    s.limits = t.limits ∧ (∀ n, s.QuietFor n) ∧ (∀ n, t.QuietFor n) ∧ s.documents? "people" = some [a, b, d] ∧
      t.documents? "people" = some [d, b, a] ∧
      (find (Store.backend s.limits) "people" selector options s).1.result =
        (find (Store.backend t.limits) "people" selector options t).1.result := by
  intro a b d index s t selector options
  have hquiet : ∀ n, s.QuietFor n := quietFor_of_failure_eq_none rfl
  have hquiet' : ∀ n, t.QuietFor n := quietFor_of_failure_eq_none rfl
  have hperm : [a, b, d].Perm [d, b, a] := (List.reverse_perm [a, b, d]).symm
  have hdistinct : ([a, b, d].filter selector.document.isMatch).Pairwise fun a b =>
      ¬SortField.SameKeys [⟨"age", .descending⟩] a b := by decide
  exact ⟨rfl, hquiet, hquiet', rfl, rfl, congrArg Run.result
    (find_eq_of_perm s t "people" _ _ selector options rfl rfl rfl (fun _ => Iff.rfl) hperm hdistinct hquiet hquiet')⟩

end Store

end PagedFind
