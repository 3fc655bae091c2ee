import PagedFind.Proofs.Json.Projection
import PagedFind.Proofs.Selector.Faults
import PagedFind.Proofs.Store.Bounds
import PagedFind.Regex.Match

namespace PagedFind

namespace Expr

mutual

/-- The fields that an expression asks of the document itself; what array matches ask of the items is left out. -/
def documentFields : Expr → List String
  | .predicate field _ _ => [field]
  | .combine _ children => documentFieldsOf children
  | .arrayMatch field _ _ => [field]

def documentFieldsOf : List Expr → List String
  | [] => []
  | x :: xs => x.documentFields ++ documentFieldsOf xs

end

def Agree (fields : List String) (v w : Option Json) : Prop := ∀ field ∈ fields, addressed field v = addressed field w

variable {v w : Option Json} {fields fields' : List String}

theorem agree_append : Agree (fields ++ fields') v w ↔ Agree fields v w ∧ Agree fields' v w := List.forall_mem_append

variable [Regex.Engine]

mutual

/-- What an expression says of a value depends only on the fields that it asks for. -/
theorem holds_congr : ∀ (e : Expr), Agree e.documentFields v w → (e.Holds v ↔ e.Holds w)
  | .predicate field op operand, h => by
    have hfield : addressed field v = addressed field w := h field (.head _)
    rw [Holds, Holds, hfield]
  | .combine .all children, h => holdsAll_congr children h
  | .combine .any children, h => holdsAny_congr children h
  | .arrayMatch field mode inner, h => by
    have hfield : addressed field v = addressed field w := h field (.head _)
    rw [Holds, Holds, hfield]

theorem holdsAll_congr : ∀ (children : List Expr), Agree (documentFieldsOf children) v w →
    (HoldsAll children v ↔ HoldsAll children w)
  | [], _ => Iff.rfl
  | x :: xs, h => by
    obtain ⟨hfirst, hrest⟩ := agree_append.mp h
    rw [HoldsAll, HoldsAll, holds_congr x hfirst, holdsAll_congr xs hrest]

theorem holdsAny_congr : ∀ (children : List Expr), Agree (documentFieldsOf children) v w →
    (HoldsAny children v ↔ HoldsAny children w)
  | [], _ => Iff.rfl
  | x :: xs, h => by
    obtain ⟨hfirst, hrest⟩ := agree_append.mp h
    rw [HoldsAny, HoldsAny, holds_congr x hfirst, holdsAny_congr xs hrest]

end

theorem check_of_checkAll_cons {inside : Bool} {x : Expr} {xs : List Expr} (h : checkAll inside (x :: xs) = .ok ()) :
    x.check inside = .ok () ∧ checkAll inside xs = .ok () := by
  rw [checkAll] at h
  cases hcheck : x.check inside with
  | ok _ =>
    rw [hcheck] at h
    exact ⟨rfl, h⟩
  | error e =>
    rw [hcheck] at h
    cases h

mutual

theorem named_of_check : ∀ (e : Expr), e.check false = .ok () → "" ∉ e.documentFields
  | .predicate field op operand, h => by
    intro hfield
    obtain rfl := List.mem_singleton.mp hfield
    simp [check] at h
  | .combine how [], h => by
    rw [check] at h
    cases h
  | .combine how (x :: xs), h => by
    rw [check_combine (List.cons_ne_nil x xs)] at h
    obtain ⟨hfirst, hrest⟩ := check_of_checkAll_cons h
    exact List.not_mem_append (named_of_check x hfirst) (named_of_checkAll xs hrest)
  | .arrayMatch field mode inner, h => by
    intro hfield
    obtain rfl := List.mem_singleton.mp hfield
    simp [check] at h

theorem named_of_checkAll : ∀ (children : List Expr), checkAll false children = .ok () →
    "" ∉ documentFieldsOf children
  | [], _ => List.not_mem_nil
  | x :: xs, h => by
    obtain ⟨hfirst, hrest⟩ := check_of_checkAll_cons h
    exact List.not_mem_append (named_of_check x hfirst) (named_of_checkAll xs hrest)

end

end Expr

/-- A path of a projection finds in it what it finds in the document. -/
theorem Json.IsProjection.at?_eq {doc out : Json} {paths : List String} {path : String}
    (h : doc.IsProjection paths out) (hpath : path ∈ paths) : out.at? path = doc.at? path := by
  cases hvalue : doc.at? path with
  | none =>
    have hnone := mt (h.isSome_at?_iff hpath).mp (by rw [hvalue]; exact Bool.false_ne_true)
    exact Option.not_isSome_iff_eq_none.mp hnone
  | some value =>
    have hkept : doc.Keeps paths (pathKeys path) :=
      ⟨path, hpath, Option.isSome_of_eq_some hvalue, List.prefix_refl _⟩
    exact (h.kept _ hkept).trans hvalue

theorem Collection.exists_of_mem_page [Regex.Engine] {c : Collection} {request : FindRequest} {pageLimit : Nat} {answer : Page}
    (h : c.page pageLimit request = .ok answer) {row : Json} (hrow : row ∈ answer.docs) :
    ∃ doc ∈ c.documents, request.selector.isMatch doc = true ∧ row = Collection.project request.fields doc := by
  obtain ⟨r, -, -, hslice⟩ := isSlice_of_page h
  rw [hslice.docs] at hrow
  have hthere : row ∈ c.rows request := List.mem_of_mem_take (List.mem_of_mem_drop hrow)
  obtain ⟨doc, hdoc, rfl⟩ := List.mem_map.mp hthere
  have hselected := (SortField.sort_isStableSort _ _).perm.mem_iff.mp hdoc
  obtain ⟨hmem, hmatch⟩ := List.mem_filter.mp hselected
  exact ⟨doc, hmem, hmatch, rfl⟩

namespace Selector

section

variable [Regex.Engine] {selector : Selector} {paths : List String}

theorem isMatch_project_of_subset (hplain : selector.root.PlainFields)
    (hpaths : ∀ field ∈ selector.root.documentFields, field ∈ paths) {doc : Json} (hdoc : doc.Canonical) :
    selector.document.isMatch (doc.project paths) = selector.document.isMatch doc := by
  have hprojection := Json.isProjection_project hdoc paths
  have hnamed := Expr.named_of_check selector.root selector.checked
  have hagree : Expr.Agree selector.root.documentFields (some (doc.project paths)) (some doc) := by
    intro field hfield
    have hne : field ≠ "" := fun heq => hnamed (heq ▸ hfield)
    rw [addressed, addressed, if_neg hne, if_neg hne]
    exact hprojection.at?_eq (hpaths field hfield)
  rw [Bool.eq_iff_iff, document, Json.isMatch, Json.isMatch, Expr.selects_document _ hplain,
    Expr.selects_document _ hplain]
  exact Expr.holds_congr selector.root hagree

/-- A projection on paths among which are all the fields that a selector asks of the document does not change whether
the document matches. So a find that projects its rows on such paths brings only rows that match once more. -/
theorem isMatch_project (selector : Selector) (hplain : selector.root.PlainFields) (paths : List String)
    (hpaths : ∀ field ∈ selector.root.documentFields, field ∈ paths) :
    (∀ doc : Json, doc.Canonical → selector.document.isMatch (doc.project paths) = selector.document.isMatch doc) ∧
      ∀ (s : Store) (database : String) (options : QueryOptions), options.fields = some paths →
        (∀ c, s.databases.get? database = some c → ∀ doc ∈ c.documents, doc.Canonical) →
        let rows := (find (Store.backend s.limits) database selector options s).1.result.rows
        rows.filter selector.document.isMatch = rows := by
  refine ⟨fun doc hdoc => isMatch_project_of_subset hplain hpaths hdoc, ?_⟩
  intro s database options hfields hcanonical rows
  refine List.filter_eq_self.mpr ?_
  refine find_rows (fun t => t.databases = s.databases) (fun request t ht => ht) ?_ rfl
  intro size bookmark t page ht hpage row hrow
  have hanswer : t.answer database ((FindRequest.base selector options).forRound size bookmark) = .ok page := hpage
  rcases t.answer_cases database _ with ⟨-, e, herror, -⟩ | ⟨c, hdb, hcollection, -⟩
  · cases herror.symm.trans hanswer
  · obtain ⟨doc, hdoc, hmatch, hproject⟩ := Collection.exists_of_mem_page (hcollection.symm.trans hanswer) hrow
    have hrow : row = doc.project paths := by
      rw [hproject]
      exact congrArg (Collection.project · doc) hfields
    rw [hrow, isMatch_project_of_subset hplain hpaths (hcanonical c (ht ▸ hdb) doc hdoc)]
    exact hmatch

end

/-- Two of three people are found by their first name or their shifts, and found again among the rows, of which one has
a name and the other has shifts. -/
theorem isMatch_project_people :
    let selector : Selector :=
      ⟨.anyOf [.equal "name.first" (.string "Ann"), .someItem "shifts" (.greater "" (.nat 3))], rfl⟩
    let paths := ["shifts", "name.first", "name"]
    let name : Json := .object [("first", .string "Ann"), ("last", .string "Lee")]
    let a : Json := .object [("_id", .string "a"), ("name", name)]
    let b : Json := .object [("_id", .string "b"), ("shifts", .array [.nat 2, .nat 4])]
    let c : Json := .object [("_id", .string "c"), ("name", .object [("last", .string "Lee")])]
    let people : Collection := ⟨[a, b, c], []⟩
    let s : Store := ⟨[("people", people)], ⟨1, 100⟩, 0, none⟩
    let options : QueryOptions := { QueryOptions.default with fields := some paths, limit := some 5 }
    let rows := (find (Store.backend s.limits) "people" selector options s).1.result.rows
    selector.root.PlainFields ∧ (∀ field ∈ selector.root.documentFields, field ∈ paths) ∧
      (∀ doc ∈ people.documents, doc.Canonical) ∧ selector.document.isMatch (c.project paths) = false ∧
      rows = [.object [("name", name)], .object [("shifts", .array [.nat 2, .nat 4])]] ∧
      rows.filter selector.document.isMatch = rows := by
  intro selector paths name a b c people s options rows
  have hplain : selector.root.PlainFields := ⟨rfl, ⟨rfl, rfl⟩, trivial⟩
  have hpaths : ∀ field ∈ selector.root.documentFields, field ∈ paths := by decide
  have hname : name.Canonical := ⟨by decide, trivial, trivial, trivial⟩
  have ha : a.Canonical := ⟨by decide, trivial, hname, trivial⟩
  have hb : b.Canonical := ⟨by decide, trivial, ⟨trivial, trivial, trivial⟩, trivial⟩
  have hc : c.Canonical := ⟨by decide, trivial, ⟨by decide, trivial, trivial⟩, trivial⟩
  have hcanonical : ∀ doc ∈ people.documents, doc.Canonical := by
    intro doc hdoc
    simp only [people, List.mem_cons, List.not_mem_nil, or_false] at hdoc
    rcases hdoc with rfl | rfl | rfl
    · exact ha
    · exact hb
    · exact hc
  obtain ⟨hproject, hfind⟩ := isMatch_project selector hplain paths hpaths
  have hother : selector.document.isMatch c = false := by decide +kernel
  have hrows : rows = (people.unpaged selector options).take 5 :=
    (Store.find_of_no_failure s "people" people selector options (by decide) rfl rfl (by decide) rfl).1
  have hmatches : selector.document.isMatch a = true ∧ selector.document.isMatch b = true := by decide +kernel
  have hselected : people.documents.filter selector.document.isMatch = [a, b] := by
    simp only [people, List.filter_cons, List.filter_nil, hmatches, hother, if_true, Bool.false_eq_true, if_false]
  have hunpaged : people.unpaged selector options = [a, b].map (Collection.project options.fields) := by
    rw [← hselected]
    exact Collection.unpaged_of_pairwise (by rw [hselected]; decide)
  refine ⟨hplain, hpaths, hcanonical, (hproject c hc).trans hother, ?_, ?_⟩
  · rw [hrows, hunpaged]
    rfl
  · refine hfind s "people" options rfl ?_
    intro c' hc' doc hdoc
    cases hc'
    exact hcanonical doc hdoc

end Selector

end PagedFind
