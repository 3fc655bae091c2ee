import PagedFind.Proofs.Store.Isolation
import PagedFind.Regex.Match

namespace PagedFind

def FindError.Reported (e : FindError) : Prop := ∃ status error reason, e = .backend status error reason

theorem FindError.not_reported_pageOverflow : ¬FindError.pageOverflow.Reported := by
  rintro ⟨_, _, _, h⟩
  cases h

/-- A page is a slice of rows, whose end is its bookmark. -/
structure Page.IsSlice (page : Page) (rows : List Json) (start stop : Nat) : Prop where
  start_le : start ≤ stop
  stop_le : stop ≤ rows.length
  docs : page.docs = (rows.take stop).drop start
  bookmark : page.bookmark = some (Bookmark.encode stop)

def FindRequest.pageSize (request : FindRequest) (pageLimit : Nat) : Nat :=
  min (request.limit.getD Collection.defaultLimit) pageLimit

namespace Collection

variable [Regex.Engine] {c : Collection} {request : FindRequest} {pageLimit r : Nat} {e : FindError}

def rows (c : Collection) (request : FindRequest) : List Json := (c.selected request).map (project request.fields)

theorem length_rows (c : Collection) (request : FindRequest) :
    (c.rows request).length = (c.documents.filter request.selector.isMatch).length := by
  rw [rows, List.length_map, selected, SortField.sort_eq_mergeSort, List.length_mergeSort]

omit [Regex.Engine] in
theorem reported_of_checkSort {sort : Option (List SortField)} (h : c.checkSort sort = .error e) : e.Reported := by
  unfold checkSort at h
  split at h
  · cases h
  · split at h
    · cases h
      exact ⟨_, _, _, rfl⟩
    · split at h
      · cases h
      · cases h
        exact ⟨_, _, _, rfl⟩

omit [Regex.Engine] in
theorem reported_of_offset {bookmark : Option String} (h : offset bookmark = .error e) : e.Reported := by
  unfold offset at h
  split at h
  · cases h
  · split at h
    · cases h
    · split at h
      · cases h
      · cases h
        exact ⟨_, _, _, rfl⟩

/-- The page of a request would end beyond the numbers of sixty-four bits, counted from where its bookmark leads. -/
def PageOverflows (c : Collection) (pageLimit : Nat) (request : FindRequest) : Prop :=
  c.checkSort request.sort = .ok () ∧ ∃ r, offset request.bookmark = .ok r ∧
    Text.maxWord < min r (c.rows request).length + request.pageSize pageLimit

theorem page_of_overflows (h : c.PageOverflows pageLimit request) :
    c.page pageLimit request = .error .pageOverflow := by
  obtain ⟨hsort, r, hoffset, hword⟩ := h
  rw [rows, List.length_map, FindRequest.pageSize] at hword
  simp only [page, hsort, hoffset, if_pos hword]

theorem isSlice_of_page {answer : Page} (h : c.page pageLimit request = .ok answer) :
    ∃ r, offset request.bookmark = .ok r ∧
      min r (c.rows request).length + request.pageSize pageLimit ≤ Text.maxWord ∧
      answer.IsSlice (c.rows request) (min r (c.rows request).length)
        (min (min r (c.rows request).length + request.pageSize pageLimit) (c.rows request).length) := by
  have hlength : (c.rows request).length = (c.selected request).length := List.length_map _
  unfold page at h
  split at h
  · cases h
  · cases h
  next r hsort hoffset =>
    simp only at h
    split at h
    · cases h
    next hfit =>
      cases h
      rw [hlength, FindRequest.pageSize]
      refine ⟨r, hoffset, Nat.le_of_not_lt hfit, ?_, ?_, ?_, rfl⟩
      · omega
      · rw [hlength]
        exact Nat.min_le_right _ _
      · rw [rows, List.drop_take, List.map_take, List.map_drop]

theorem exists_page (hsort : c.checkSort request.sort = .ok ()) (hoffset : offset request.bookmark = .ok r)
    (hfit : min r (c.rows request).length + request.pageSize pageLimit ≤ Text.maxWord) :
    ∃ answer, c.page pageLimit request = .ok answer := by
  rw [rows, List.length_map, FindRequest.pageSize] at hfit
  cases hpage : c.page pageLimit request with
  | ok answer => exact ⟨answer, rfl⟩
  | error e =>
    simp only [page, hsort, hoffset, if_neg (Nat.not_lt_of_le hfit)] at hpage
    cases hpage

/-- What comes of a request that does not overflow. -/
theorem page_or_reported (h : ¬c.PageOverflows pageLimit request) :
    (∃ answer, c.page pageLimit request = .ok answer) ∨ ∃ e, c.page pageLimit request = .error e ∧ e.Reported := by
  cases hsort : c.checkSort request.sort with
  | error e => exact .inr ⟨e, page_of_checkSort_error pageLimit hsort, reported_of_checkSort hsort⟩
  | ok _ =>
    cases hoffset : offset request.bookmark with
    | error e =>
      have hpage : c.page pageLimit request = .error e := by simp only [page, hsort, hoffset]
      exact .inr ⟨e, hpage, reported_of_offset hoffset⟩
    | ok r =>
      have hfit : ¬Text.maxWord < min r (c.rows request).length + request.pageSize pageLimit :=
        fun hword => h ⟨hsort, r, hoffset, hword⟩
      exact .inl (exists_page hsort hoffset (Nat.le_of_not_lt hfit))

theorem page_eq_pageOverflow_iff :
    c.page pageLimit request = .error .pageOverflow ↔ c.PageOverflows pageLimit request := by
  refine ⟨fun hpage => ?_, page_of_overflows⟩
  by_contra hfit
  rcases page_or_reported hfit with ⟨answer, hanswer⟩ | ⟨e, herror, hreported⟩
  · cases hpage.symm.trans hanswer
  · cases hpage.symm.trans herror
    exact FindError.not_reported_pageOverflow hreported

theorem not_pageOverflows_of_count (hfit : c.documents.length + request.pageSize pageLimit ≤ Text.maxWord) :
    ¬c.PageOverflows pageLimit request := by
  rintro ⟨-, r, -, hword⟩
  have hrows : (c.rows request).length ≤ c.documents.length := by
    rw [length_rows]
    exact List.length_filter_le _ _
  have hstart : min r (c.rows request).length ≤ (c.rows request).length := Nat.min_le_right _ _
  omega

theorem not_pageOverflows_of_start (hstart : offset request.bookmark = .ok 0)
    (hfit : request.pageSize pageLimit ≤ Text.maxWord) : ¬c.PageOverflows pageLimit request := by
  rintro ⟨-, r, hoffset, hword⟩
  cases hstart.symm.trans hoffset
  rw [Nat.zero_min, Nat.zero_add] at hword
  omega

end Collection

namespace Store

section

variable [Regex.Engine]

def Operation.added (database : String) : Operation → Nat
  | .addDocuments other docs => if other = database then docs.length else 0
  | _ => 0

def added (database : String) : List Operation → Nat
  | [] => 0
  | op :: later => op.added database + added database later

/-- A call for a page that no planned failure meets, and whose page would end beyond the numbers of sixty-four bits. -/
def Overflows (s : Store) (database : String) (request : FindRequest) : Prop :=
  s.QuietFor 1 ∧ ∃ c, s.databases.get? database = some c ∧ c.PageOverflows s.limits.maxPageSize request

variable {s : Store} {database : String} {c : Collection} {request : FindRequest}

omit [Regex.Engine] in
theorem documentCount_of_get? (hdb : s.databases.get? database = some c) :
    s.documentCount database = c.documents.length := by
  rw [documentCount, hdb]
  rfl

theorem documentCount_perform (s : Store) (database : String) (op : Operation) :
    (s.perform op).documentCount database = s.documentCount database + op.added database := by
  rw [documentCount, documentCount, get?_perform]
  cases op with
  | addDocuments other docs =>
    rw [Operation.effect, Operation.added]
    split
    · cases s.databases.get? database with
      | none => exact (Nat.zero_add docs.length).symm
      | some c => exact List.length_append
    · rfl
  | createIndex other spec =>
    rw [Operation.effect]
    split
    · cases s.databases.get? database with
      | none => rfl
      | some c =>
        have hdocuments : (c.withIndex (.ofSpec spec)).documents = c.documents := by
          unfold Collection.withIndex
          split <;> rfl
        exact congrArg List.length hdocuments
    · rfl
  | failOn failure => rfl
  | execute other request => rfl
  | find other selector options => rfl

theorem documentCount_after (s : Store) (database : String) (history : List Operation) :
    (s.after history).documentCount database = s.documentCount database + added database history := by
  induction history generalizing s with
  | nil => rfl
  | cons op history ih =>
    have hrest : (s.after (op :: history)).documentCount database
        = (s.perform op).documentCount database + added database history := ih (s.perform op)
    rw [hrest, documentCount_perform, added, Nat.add_assoc]

theorem execute_of_quiet (hquiet : s.QuietFor 1) (hdb : s.databases.get? database = some c) :
    (s.execute database request).1 = c.page s.limits.maxPageSize request := answer_of_quiet hquiet hdb

/-- A call for a page meets a failure, or finds no database, or is answered by the collection. -/
theorem answer_cases (s : Store) (database : String) (request : FindRequest) :
    (¬s.Overflows database request ∧ ∃ e, s.answer database request = .error e ∧ e.Reported) ∨
      ∃ c, s.databases.get? database = some c ∧
        s.answer database request = c.page s.limits.maxPageSize request ∧
        (s.Overflows database request ↔ c.PageOverflows s.limits.maxPageSize request) := by
  rcases s.quietFor_one_or_due with hquiet | ⟨f, hf, hdue⟩
  · cases hdb : s.databases.get? database with
    | none =>
      have hanswer : s.answer database request = .error .noDatabase := by
        rw [answer_of_quietFor hquiet, answer_withoutFailure, hdb]
      refine .inl ⟨?_, .noDatabase, hanswer, _, _, _, rfl⟩
      rintro ⟨-, c, hthere, -⟩
      cases hdb.symm.trans hthere
    | some c =>
      refine .inr ⟨c, rfl, answer_of_quiet hquiet hdb, ?_, fun hoverflow => ⟨hquiet, c, hdb, hoverflow⟩⟩
      rintro ⟨-, c', hthere, hoverflow⟩
      cases hdb.symm.trans hthere
      exact hoverflow
  · refine .inl ⟨?_, _, answer_of_due database request hf hdue, _, _, _, rfl⟩
    rintro ⟨hquiet, -⟩
    have hlater := hquiet f hf
    omega

/-- A store in which the documents and one page are no more than the numbers of sixty-four bits. -/
theorem not_overflows_of_count
    (hfit : s.documentCount database + request.pageSize s.limits.maxPageSize ≤ Text.maxWord) :
    ¬s.Overflows database request := by
  rintro ⟨-, c, hdb, hoverflow⟩
  rw [documentCount_of_get? hdb] at hfit
  exact Collection.not_pageOverflows_of_count hfit hoverflow

/-- What comes of any call for a page. It comes to nothing just where the end of the page would be beyond the numbers
of sixty-four bits, which is looked at before that end is brought within the rows; and otherwise to a page, which is a
slice of the rows, or to an error with a status. No first page of a request comes to nothing, and no page at all in a
store whose documents, those that were added since included, are few enough beside the size of a page. -/
theorem execute_answered (s : Store) (database : String) (request : FindRequest) :
    let outcome := (s.execute database request).1
    let size := request.pageSize s.limits.maxPageSize
    (outcome = .error .pageOverflow ↔ s.Overflows database request) ∧
      (¬s.Overflows database request →
        (∃ page, outcome = .ok page) ∨ ∃ e, outcome = .error e ∧ e.Reported) ∧
      (∀ page, outcome = .ok page → ∃ c r, s.databases.get? database = some c ∧
        Collection.offset request.bookmark = .ok r ∧
        let rows := c.rows request
        let start := min r rows.length
        start + size ≤ Text.maxWord ∧ page.IsSlice rows start (min (start + size) rows.length)) ∧
      (Collection.offset request.bookmark = .ok 0 → size ≤ Text.maxWord → ¬s.Overflows database request) ∧
      ∀ history, s.documentCount database + added database history + size ≤ Text.maxWord →
        ¬(s.after history).Overflows database request := by
  intro outcome size
  have houtcome : outcome = s.answer database request := rfl
  refine ⟨?_, ?_, ?_, ?_, ?_⟩
  · rcases s.answer_cases database request with ⟨hfit, e, herror, hreported⟩ | ⟨c, hdb, hanswer, hoverflow⟩
    · refine ⟨fun h => ?_, fun h => absurd h hfit⟩
      cases herror.symm.trans (houtcome.symm.trans h)
      exact absurd hreported FindError.not_reported_pageOverflow
    · rw [houtcome, hanswer, hoverflow]
      exact Collection.page_eq_pageOverflow_iff
  · intro hfit
    rcases s.answer_cases database request with ⟨-, hreported⟩ | ⟨c, hdb, hanswer, hoverflow⟩
    · exact .inr hreported
    · rw [hoverflow] at hfit
      rw [houtcome, hanswer]
      exact Collection.page_or_reported hfit
  · intro page hpage
    rcases s.answer_cases database request with ⟨-, e, herror, -⟩ | ⟨c, hdb, hanswer, -⟩
    · cases herror.symm.trans (houtcome.symm.trans hpage)
    · obtain ⟨r, hoffset, hword, hslice⟩ := Collection.isSlice_of_page (hanswer.symm.trans hpage)
      exact ⟨c, r, hdb, hoffset, hword, hslice⟩
  · rintro hstart hfit ⟨-, c, -, hoverflow⟩
    exact Collection.not_pageOverflows_of_start hstart hfit hoverflow
  · intro history hfit
    rw [← documentCount_after] at hfit
    have hlimits : (s.after history).limits = s.limits := limits_after s history
    exact not_overflows_of_count (by rw [hlimits]; exact hfit)

end

/-- A page of the greatest size, from a bookmark that leads as far as one can, is empty after the one document that
there is; with one more document its end would be beyond the numbers of sixty-four bits. -/
theorem execute_answered_greatest :
    let a : Json := .object [("_id", .string "a")]
    let b : Json := .object [("_id", .string "b")]
    let people : Collection := ⟨[a], []⟩
    let s : Store := ⟨[("people", people)], ⟨Text.maxWord - 1, 100⟩, 0, none⟩
    let request : FindRequest :=
      ⟨.object [], none, none, some Text.maxWord, some (Bookmark.encode Text.maxWord), none, false⟩
    s.documentCount "people" + added "people" [] + request.pageSize s.limits.maxPageSize ≤ Text.maxWord ∧
      ¬s.Overflows "people" request ∧
      (∃ page, (s.execute "people" request).1 = .ok page ∧ page.docs = [] ∧
        page.bookmark = some (Bookmark.encode 1)) ∧
      ((s.after [.addDocuments "people" [b]]).execute "people" request).1 = .error .pageOverflow := by
  intro a b people s request
  have hoffset : Collection.offset request.bookmark = .ok Text.maxWord := Collection.offset_encode (Nat.le_refl _)
  have hcount : s.documentCount "people" + added "people" [] + request.pageSize s.limits.maxPageSize
      ≤ Text.maxWord := by decide
  have hlength : (people.rows request).length = 1 := by
    rw [Collection.length_rows]
    decide
  obtain ⟨-, -, hslice, -, hfew⟩ := execute_answered s "people" request
  obtain ⟨hoverflow, -⟩ := execute_answered (s.after [.addDocuments "people" [b]]) "people" request
  have hsecond : (s.after [.addDocuments "people" [b]]).Overflows "people" request := by
    refine ⟨quietFor_of_failure_eq_none rfl 1, ⟨[a, b], []⟩, rfl, rfl, Text.maxWord, hoffset, ?_⟩
    rw [Collection.length_rows]
    decide
  have hfit : min Text.maxWord (people.rows request).length + request.pageSize s.limits.maxPageSize
      ≤ Text.maxWord := by
    rw [hlength]
    decide
  obtain ⟨page, hpage⟩ := Collection.exists_page rfl hoffset hfit
  have hpeople : s.databases.get? "people" = some people := rfl
  have hquiet : s.QuietFor 1 := quietFor_of_failure_eq_none rfl 1
  have hfirst : (s.execute "people" request).1 = .ok page := (execute_of_quiet hquiet hpeople).trans hpage
  obtain ⟨c, r, hdb, hr, -, hcut⟩ := hslice page hfirst
  cases hpeople.symm.trans hdb
  cases hoffset.symm.trans hr
  have hstart : min Text.maxWord 1 = 1 := by decide
  have hstop : min (1 + request.pageSize s.limits.maxPageSize) 1 = 1 := by decide
  rw [hlength, hstart, hstop] at hcut
  have hdocs : page.docs = [] := by
    rw [hcut.docs, List.drop_take, Nat.sub_self, List.take_zero]
  exact ⟨hcount, hfew [] hcount, ⟨page, hfirst, hdocs, hcut.bookmark⟩, hoverflow.mpr hsecond⟩

/-- The page after the only document is not served where a page may be as long as there are numbers of sixty-four
bits. -/
theorem execute_overflows :
    let people : Collection := ⟨[.object [("_id", .string "a")]], []⟩
    let s : Store := ⟨[("people", people)], ⟨Text.maxWord, 100⟩, 0, none⟩
    let request : FindRequest :=
      ⟨.object [], none, none, some Text.maxWord, some (Bookmark.encode 1), none, false⟩
    let outcome := (s.execute "people" request).1
    Collection.offset request.bookmark = .ok 1 ∧ outcome = .error .pageOverflow ∧
      ¬((∃ page, outcome = .ok page) ∨ ∃ e, outcome = .error e ∧ e.Reported) := by
  intro people s request outcome
  have hoffset : Collection.offset request.bookmark = .ok 1 := Collection.offset_encode (by decide)
  have hpage : people.page s.limits.maxPageSize request = .error .pageOverflow := by
    refine Collection.page_of_overflows ⟨rfl, 1, hoffset, ?_⟩
    rw [Collection.length_rows]
    decide
  have hpeople : s.databases.get? "people" = some people := rfl
  have hquiet : s.QuietFor 1 := quietFor_of_failure_eq_none rfl 1
  have houtcome : outcome = .error .pageOverflow := (execute_of_quiet hquiet hpeople).trans hpage
  refine ⟨hoffset, houtcome, ?_⟩
  rintro (⟨page, hok⟩ | ⟨e, herror, hreported⟩)
  · cases houtcome.symm.trans hok
  · cases houtcome.symm.trans herror
    exact FindError.not_reported_pageOverflow hreported

end Store

end PagedFind
