import PagedFind.Proofs.Find.Runs
import PagedFind.Proofs.Store.Bookmark
import PagedFind.Proofs.Store.Sorting
import PagedFind.Regex.Match

namespace PagedFind

/-- The number of rounds that bring the rows wanted, or find out that there are fewer. -/
def roundCount (wanted pageLimit total : Nat) : Nat :=
  if wanted = 0 then 0
  else if wanted ≤ total then (wanted + pageLimit - 1) / pageLimit
  else total / pageLimit + 1

theorem roundCount_last {wanted pageLimit total : Nat} (hpage : 0 < pageLimit) (hwanted : 0 < wanted)
    (h : wanted ≤ pageLimit ∨ total < pageLimit) : roundCount wanted pageLimit total = 1 := by
  rw [roundCount, if_neg (by omega)]
  split
  next hle =>
    have hshift : wanted + pageLimit - 1 = wanted - 1 + pageLimit := by omega
    rw [hshift, Nat.add_div_right _ hpage, Nat.div_eq_of_lt (by omega)]
  next hlt => rw [Nat.div_eq_of_lt (by omega)]

theorem roundCount_more {wanted pageLimit total : Nat} (hpage : 0 < pageLimit)
    (hwanted : pageLimit < wanted) (htotal : pageLimit ≤ total) :
    roundCount wanted pageLimit total = roundCount (wanted - pageLimit) pageLimit (total - pageLimit) + 1 := by
  unfold roundCount
  rw [if_neg (show wanted ≠ 0 by omega), if_neg (show wanted - pageLimit ≠ 0 by omega)]
  by_cases hle : wanted ≤ total
  · have hshift : wanted + pageLimit - 1 = wanted - pageLimit + pageLimit - 1 + pageLimit := by omega
    rw [if_pos hle, if_pos (show wanted - pageLimit ≤ total - pageLimit by omega), hshift,
      Nat.add_div_right _ hpage]
  · rw [if_neg hle, if_neg (show ¬wanted - pageLimit ≤ total - pageLimit by omega),
      Nat.div_eq_sub_div hpage htotal]

theorem roundCount_pos {wanted pageLimit : Nat} (hpage : 0 < pageLimit) (hwanted : 0 < wanted) (total : Nat) :
    0 < roundCount wanted pageLimit total := by
  by_cases h : wanted ≤ pageLimit ∨ total < pageLimit
  · rw [roundCount_last hpage hwanted h]
    exact Nat.one_pos
  · rw [roundCount_more hpage (by omega) (by omega)]
    exact Nat.succ_pos _

namespace Collection

variable [Regex.Engine] {c : Collection} {selector : Selector} {options : QueryOptions}

/-- The rows of a query without pages. -/
def unpaged (c : Collection) (selector : Selector) (options : QueryOptions) : List Json :=
  ((c.documents.filter selector.document.isMatch).mergeSort
    (SortField.precedes (options.sort.getD SortField.byId))).map (project options.fields)

omit [Regex.Engine] in
theorem offset_encode {n : Nat} (h : n ≤ Text.maxWord) : offset (some (Bookmark.encode n)) = .ok n := by
  simp only [offset, if_neg (Bookmark.encode_ne_empty n), Bookmark.decode?_encode h]

theorem page_eq (request : FindRequest) {pageLimit r n : Nat} (hsort : c.checkSort request.sort = .ok ())
    (hoffset : offset request.bookmark = .ok r)
    (hlimit : min (request.limit.getD defaultLimit) pageLimit = n) (hword : r + n ≤ Text.maxWord) :
    c.page pageLimit request =
      .ok ⟨(((c.selected request).drop r).take n).map (project request.fields),
        some (Bookmark.encode (min (r + n) (c.selected request).length)), c.warning? request.useIndex⟩ := by
  simp only [page, hsort, hoffset, hlimit]
  generalize c.selected request = rows
  have hfit : ¬Text.maxWord < min r rows.length + n := by omega
  have hstop : min (min r rows.length + n) rows.length = min (r + n) rows.length := by omega
  have hslice : (rows.drop (min r rows.length)).take (min (r + n) rows.length - min r rows.length)
      = (rows.drop r).take n := by
    rcases Nat.le_total r rows.length with hle | hge
    · rw [Nat.min_eq_left hle, List.take_eq_take_iff, List.length_drop]
      omega
    · rw [Nat.min_eq_right hge, List.drop_length, List.drop_eq_nil_of_le hge, List.take_nil, List.take_nil]
  rw [if_neg hfit, hstop, hslice]

theorem selected_map_project (n : Nat) (bookmark : Option String) :
    (c.selected ((FindRequest.base selector options).forRound n bookmark)).map (project options.fields)
      = c.unpaged selector options := by
  unfold selected unpaged
  rw [SortField.sort_eq_mergeSort]
  rfl

/-- The page of a round is a slice of the rows without pages. -/
theorem page_forRound {pageLimit n r : Nat} {bookmark : Option String}
    (hsort : c.checkSort options.sort = .ok ()) (hoffset : offset bookmark = .ok r)
    (hn : n ≤ pageLimit) (hword : r + n ≤ Text.maxWord) :
    c.page pageLimit ((FindRequest.base selector options).forRound n bookmark) =
      .ok ⟨((c.unpaged selector options).drop r).take n,
        some (Bookmark.encode (min (r + n) (c.unpaged selector options).length)),
        c.warning? options.useIndex⟩ := by
  have hpage := page_eq ((FindRequest.base selector options).forRound n bookmark) hsort hoffset
    (Nat.min_eq_left hn) hword
  rw [hpage, ← selected_map_project n bookmark, List.length_map, ← List.map_drop, ← List.map_take]
  rfl

end Collection

namespace Store

section

variable [Regex.Engine]

/-- No failure is planned for the next calls. -/
def QuietFor (s : Store) (n : Nat) : Prop :=
  ∀ f, s.failure = some f → f.call ≤ s.calls ∨ s.calls + n < f.call

omit [Regex.Engine] in
theorem quietFor_of_failure_eq_none {s : Store} (h : s.failure = none) (n : Nat) : s.QuietFor n := by
  intro f hf
  rw [h] at hf
  cases hf

def called (s : Store) (n : Nat) : Store := { s with calls := s.calls + n }

omit [Regex.Engine] in
theorem called_called (s : Store) (m n : Nat) : (s.called m).called n = s.called (m + n) := by
  simp only [called, Nat.add_assoc]

omit [Regex.Engine] in
theorem QuietFor.called {s : Store} {m n : Nat} (h : s.QuietFor (m + n)) : (s.called m).QuietFor n := by
  intro f hf
  have := h f hf
  simp only [Store.called]
  omega

def withoutFailure (s : Store) : Store := { s with failure := none }

theorem answer_withoutFailure (s : Store) (database : String) (request : FindRequest) :
    s.withoutFailure.answer database request = match s.databases.get? database with
      | none => .error .noDatabase
      | some c => c.page s.limits.maxPageSize request := rfl

theorem answer_of_quietFor {s : Store} {n : Nat} (hquiet : s.QuietFor (n + 1)) (database : String)
    (request : FindRequest) : s.answer database request = s.withoutFailure.answer database request := by
  rw [answer_withoutFailure]
  unfold answer
  split
  next f hfailure =>
    obtain ⟨hsome, hcall⟩ := Option.filter_eq_some_iff.mp hfailure
    have := hquiet f hsome
    have := of_decide_eq_true hcall
    omega
  next => rfl

theorem answer_of_quiet {s : Store} {database : String} {c : Collection} {request : FindRequest} {n : Nat}
    (hquiet : s.QuietFor (n + 1)) (hdb : s.databases.get? database = some c) :
    s.answer database request = c.page s.limits.maxPageSize request := by
  rw [answer_of_quietFor hquiet, answer_withoutFailure, hdb]

/-- What a store and a plan have to agree on for the rounds of the plan to go through. -/
structure Serves (s : Store) (plan : Plan) (c : Collection) (selector : Selector)
    (options : QueryOptions) : Prop where
  database : s.databases.get? plan.database = some c
  limit : s.limits.maxPageSize = plan.pageLimit
  request : plan.request = FindRequest.base selector options
  sort : c.checkSort options.sort = .ok ()
  page : 0 < plan.pageLimit
  word : plan.target ≤ Text.maxWord
  single : plan.single = true → plan.target ≤ plan.pageLimit

variable {s s' : Store} {limits : Limits} {plan : Plan} {p : Position} {run : Run} {c : Collection}
  {selector : Selector} {options : QueryOptions}

theorem Serves.called (h : s.Serves plan c selector options) (n : Nat) :
    (s.called n).Serves plan c selector options :=
  ⟨h.database, h.limit, h.request, h.sort, h.page, h.word, h.single⟩

/-- The page at a position: the rows that follow those collected. -/
def pageAt (plan : Plan) (c : Collection) (selector : Selector) (options : QueryOptions)
    (p : Position) : Page where
  docs := ((c.unpaged selector options).drop p.collected).take (plan.pageSize p)
  bookmark := some (Bookmark.encode
    (min (p.collected + plan.pageSize p) (c.unpaged selector options).length))
  warning := c.warning? options.useIndex

theorem Serves.execute (h : s.Serves plan c selector options) (limits : Limits) {n : Nat}
    (hquiet : s.QuietFor (n + 1)) (hp : p.collected < plan.target)
    (hoffset : Collection.offset p.bookmark = .ok p.collected) :
    (Store.backend limits).execute plan.database (plan.roundRequest p) s =
      (⟨.ok (pageAt plan c selector options p), []⟩, s.called 1) := by
  have hsize : plan.pageSize p ≤ plan.pageLimit := Nat.min_le_right _ _
  have hword : p.collected + plan.pageSize p ≤ Text.maxWord := by
    have := h.word
    have : plan.pageSize p ≤ plan.remaining p := Nat.min_le_left _ _
    unfold Plan.remaining at this
    omega
  have hanswer : s.answer plan.database (plan.roundRequest p) = .ok (pageAt plan c selector options p) := by
    rw [answer_of_quiet hquiet h.database, h.limit, Plan.roundRequest, h.request]
    exact Collection.page_forRound h.sort hoffset hsize hword
  simp only [Store.backend, Store.execute, hanswer]
  rfl

theorem Serves.execute_of_rounds (h : s.Serves plan c selector options) (limits : Limits) {total : Nat}
    (hp : p.collected < plan.target) (hoffset : Collection.offset p.bookmark = .ok p.collected)
    (hquiet : s.QuietFor (roundCount (plan.remaining p) plan.pageLimit total)) :
    (Store.backend limits).execute plan.database (plan.roundRequest p) s =
      (⟨.ok (pageAt plan c selector options p), []⟩, s.called 1) := by
  have hpos := roundCount_pos h.page (Plan.remaining_pos hp) total
  obtain ⟨n, hn⟩ := Nat.exists_eq_succ_of_ne_zero (Nat.ne_of_gt hpos)
  rw [hn] at hquiet
  exact h.execute limits hquiet hp hoffset

theorem length_pageAt (plan : Plan) (c : Collection) (selector : Selector) (options : QueryOptions)
    (p : Position) :
    (pageAt plan c selector options p).docs.length
      = min (plan.pageSize p) ((c.unpaged selector options).length - p.collected) := by
  simp only [pageAt, List.length_take, List.length_drop]

theorem pageAt_docs (plan : Plan) (c : Collection) (selector : Selector) (options : QueryOptions)
    (p : Position) :
    (pageAt plan c selector options p).docs = ((c.unpaged selector options).drop p.collected).take
      (pageAt plan c selector options p).docs.length := by
  rw [length_pageAt, pageAt, List.take_eq_take_iff, List.length_drop]
  omega

/-- The pages of a store are never longer than asked for. -/
theorem kept_pageAt (plan : Plan) (c : Collection) (selector : Selector) (options : QueryOptions)
    (p : Position) :
    plan.kept p (pageAt plan c selector options p) = (pageAt plan c selector options p).docs := by
  have hlength := length_pageAt plan c selector options p
  have hsize : plan.pageSize p ≤ plan.remaining p := Nat.min_le_left _ _
  exact List.take_of_length_le (by omega)

theorem next_pageAt_collected (plan : Plan) (c : Collection) (selector : Selector) (options : QueryOptions)
    (p : Position) :
    (plan.next p (pageAt plan c selector options p)).collected
      = p.collected + (pageAt plan c selector options p).docs.length := by
  rw [Plan.next, kept_pageAt]

/-- A position in step with the rows of a query: its bookmark leads to those that follow the rows collected. -/
structure InStep (c : Collection) (selector : Selector) (options : QueryOptions) (p : Position) : Prop where
  there : p.collected ≤ (c.unpaged selector options).length
  offset : Collection.offset p.bookmark = .ok p.collected

theorem InStep.start (c : Collection) (selector : Selector) (options : QueryOptions) :
    InStep c selector options .start := ⟨Nat.zero_le _, rfl⟩

/-- A page leads to the rows that follow its own. -/
theorem Serves.inStep_next (h : s.Serves plan c selector options) (hwanted : p.collected < plan.target)
    (hp : InStep c selector options p) :
    InStep c selector options (plan.next p (pageAt plan c selector options p)) := by
  have hthere := hp.there
  have hword := h.word
  have hcollected := next_pageAt_collected plan c selector options p
  rw [length_pageAt] at hcollected
  have hsize : plan.pageSize p ≤ plan.remaining p := Nat.min_le_left _ _
  have hremaining : plan.remaining p = plan.target - p.collected := rfl
  refine ⟨by omega, ?_⟩
  have hstop : (plan.next p (pageAt plan c selector options p)).collected
      = min (p.collected + plan.pageSize p) (c.unpaged selector options).length := by omega
  rw [hstop]
  exact Collection.offset_encode (by omega)

/-- A find over a store goes on while more than a page is wanted and a whole page was there. -/
theorem Serves.isLast_eq_false_iff (h : s.Serves plan c selector options)
    (hwanted : p.collected < plan.target) (hp : InStep c selector options p) :
    plan.isLast p (pageAt plan c selector options p) = false ↔
      plan.pageLimit < plan.remaining p ∧
        plan.pageLimit ≤ (c.unpaged selector options).length - p.collected := by
  have hpage := h.page
  have hlength := length_pageAt plan c selector options p
  have hsize : plan.pageSize p = min (plan.remaining p) plan.pageLimit := rfl
  have hremaining : plan.remaining p = plan.target - p.collected := rfl
  rw [Plan.isLast_eq_false_iff, kept_pageAt]
  constructor
  · rintro ⟨-, hfull, -, -, hlt⟩
    omega
  · rintro ⟨hleft, htotal⟩
    refine ⟨?_, by omega, ⟨_, rfl, Bookmark.encode_ne_empty _⟩, ?_, by omega⟩
    · cases hsingle : plan.single with
      | false => rfl
      | true =>
        have := h.single hsingle
        omega
    · -- The next page would begin where this one began, though this one was not empty.
      intro heq
      have hnext : Collection.offset (pageAt plan c selector options p).bookmark
          = .ok (plan.next p (pageAt plan c selector options p)).collected := (h.inStep_next hwanted hp).offset
      rw [heq, hp.offset, next_pageAt_collected] at hnext
      simp only [Except.ok.injEq] at hnext
      omega

theorem Serves.enough_of_last (h : s.Serves plan c selector options) (hwanted : p.collected < plan.target)
    (hp : InStep c selector options p) (stop : plan.isLast p (pageAt plan c selector options p) = true) :
    plan.remaining p ≤ plan.pageLimit ∨
      (c.unpaged selector options).length - p.collected < plan.pageLimit := by
  have hgo := h.isLast_eq_false_iff hwanted hp
  rw [stop] at hgo
  simp only [Bool.true_eq_false, false_iff] at hgo
  omega

theorem Serves.roundCount_of_more (h : s.Serves plan c selector options)
    (hwanted : p.collected < plan.target) (hp : InStep c selector options p)
    (go : plan.isLast p (pageAt plan c selector options p) = false) :
    (pageAt plan c selector options p).docs.length = plan.pageLimit ∧
      roundCount (plan.remaining p) plan.pageLimit ((c.unpaged selector options).length - p.collected)
        = roundCount (plan.remaining (plan.next p (pageAt plan c selector options p))) plan.pageLimit
          ((c.unpaged selector options).length
            - (plan.next p (pageAt plan c selector options p)).collected) + 1 := by
  obtain ⟨hleft, htotal⟩ := (h.isLast_eq_false_iff hwanted hp).mp go
  have hsize : plan.pageSize p = plan.pageLimit := Nat.min_eq_right (Nat.le_of_lt hleft)
  have hlength : (pageAt plan c selector options p).docs.length = plan.pageLimit := by
    rw [length_pageAt, hsize, Nat.min_eq_left htotal]
  have hcollected := next_pageAt_collected plan c selector options p
  have hremaining := Plan.remaining_of_not_last go
  rw [hlength] at hcollected hremaining
  refine ⟨hlength, ?_⟩
  rw [roundCount_more h.page hleft htotal, hcollected, hremaining, Nat.add_sub_cancel_left, Nat.sub_sub]

theorem kept_pageAt_of_last (hstop : plan.remaining p ≤ plan.pageLimit ∨
      (c.unpaged selector options).length - p.collected < plan.pageLimit) :
    plan.kept p (pageAt plan c selector options p)
      = ((c.unpaged selector options).drop p.collected).take (plan.remaining p) := by
  have hsize : plan.pageSize p = min (plan.remaining p) plan.pageLimit := rfl
  rw [kept_pageAt, pageAt, List.take_eq_take_iff, List.length_drop]
  omega

/-- From a position on, a find over a store brings the rows that follow those collected. -/
theorem Serves.result (hrun : RunsTo (Store.backend limits) plan p s run s')
    (h : s.Serves plan c selector options) (hp : p.collected < plan.target)
    (hle : p.collected ≤ (c.unpaged selector options).length)
    (hoffset : Collection.offset p.bookmark = .ok p.collected)
    (hquiet : s.QuietFor (roundCount (plan.remaining p) plan.pageLimit
      ((c.unpaged selector options).length - p.collected))) :
    run.result.rows = ((c.unpaged selector options).drop p.collected).take (plan.remaining p) ∧
      run.result.error = none ∧
      run.result.rounds = roundCount (plan.remaining p) plan.pageLimit
        ((c.unpaged selector options).length - p.collected) ∧
      s' = s.called run.result.rounds := by
  induction hrun with
  | failed call =>
    rw [h.execute_of_rounds limits hp hoffset hquiet] at call
    cases call
  | @last p s s' page events call stop =>
    rw [h.execute_of_rounds limits hp hoffset hquiet] at call
    cases call
    have hlast := h.enough_of_last hp ⟨hle, hoffset⟩ stop
    rw [roundCount_last h.page (Plan.remaining_pos hp) hlast, ← kept_pageAt_of_last hlast]
    exact ⟨List.append_nil _, rfl, rfl, rfl⟩
  | @more p s s' s'' page events rest call go next ih =>
    rw [h.execute_of_rounds limits hp hoffset hquiet] at call
    cases call
    obtain ⟨-, hcount⟩ := h.roundCount_of_more hp ⟨hle, hoffset⟩ go
    obtain ⟨hle', hoffset'⟩ := h.inStep_next hp ⟨hle, hoffset⟩
    have hquiet' : (s.called 1).QuietFor
        (roundCount (plan.remaining (plan.next p (pageAt plan c selector options p))) plan.pageLimit
          ((c.unpaged selector options).length
            - (plan.next p (pageAt plan c selector options p)).collected)) := by
      rw [hcount, Nat.add_comm] at hquiet
      exact hquiet.called
    obtain ⟨hrows, herror, hrounds, hstate⟩ :=
      ih (h.called 1) (Plan.next_collected_lt go) hle' hoffset' hquiet'
    refine ⟨?_, herror, ?_, ?_⟩
    · rw [Plan.remaining_of_not_last go, List.take_add, List.drop_drop, ← next_pageAt_collected, ← hrows,
        ← pageAt_docs, ← kept_pageAt]
      rfl
    · rw [hcount, ← hrounds]
      rfl
    · rw [hstate, called_called, Nat.add_comm]
      rfl

theorem serves_ofQuery (selector : Selector) {database : String} (hpage : 1 ≤ s.limits.maxPageSize)
    (hdb : s.databases.get? database = some c) (hsort : c.checkSort options.sort = .ok ())
    (hword : options.pagination.target s.limits ≤ Text.maxWord) :
    s.Serves (Plan.ofQuery s.limits database selector options) c selector options where
  database := hdb
  limit := rfl
  request := rfl
  sort := hsort
  page := hpage
  word := by rw [Plan.ofQuery_target]; exact hword
  single h := by
    have hsingle : options.pagination = .single := of_decide_eq_true h
    rw [Plan.ofQuery_target, hsingle]
    exact Nat.le_refl _

/-- A find over a store brings the first rows of the query without pages, in just the rounds that they take. The
target is a number of sixty-four bits, as all numbers of rows are. -/
theorem find_eq_unpaged (s : Store) (database : String) (c : Collection) (selector : Selector)
    (options : QueryOptions) (hpage : 1 ≤ s.limits.maxPageSize)
    (hdb : s.databases.get? database = some c) (hsort : c.checkSort options.sort = .ok ())
    (hword : options.pagination.target s.limits ≤ Text.maxWord)
    (hquiet : s.QuietFor (roundCount (options.pagination.target s.limits) s.limits.maxPageSize
      (c.unpaged selector options).length)) :
    let target := options.pagination.target s.limits
    let matching := c.documents.filter selector.document.isMatch
    let order := SortField.precedes (options.sort.getD SortField.byId)
    let rows := (matching.mergeSort order).map (Collection.project options.fields)
    let result := (find (Store.backend s.limits) database selector options s).1.result
    IsStableSort order matching (matching.mergeSort order) ∧
      result.isOk = true ∧ result.rows = rows.take target ∧
      result.rounds = roundCount target s.limits.maxPageSize rows.length ∧
      (find (Store.backend s.limits) database selector options s).2 = s.called result.rounds := by
  intro target matching order rows result
  have hstable : IsStableSort order matching (matching.mergeSort order) := by
    have := SortField.sort_isStableSort (options.sort.getD SortField.byId) matching
    rwa [SortField.sort_eq_mergeSort] at this
  rcases Nat.eq_zero_or_pos target with hzero | hpos
  · have hfind := (find_of_target_eq_zero (Store.backend s.limits) database selector options s hzero).1
    simp only [result, hfind, hzero]
    exact ⟨hstable, rfl, rfl, rfl, rfl⟩
  · have hplan : Plan.ofQuery (Store.backend s.limits).limits database selector options
        = Plan.ofQuery s.limits database selector options := rfl
    obtain ⟨run, s', hrun, hfind, -⟩ :=
      find_runsTo (Store.backend s.limits) database selector options s hpage hplan hpos
    have hserves := serves_ofQuery selector hpage hdb hsort hword
    have htarget := Plan.ofQuery_target s.limits database selector options
    have hremaining : (Plan.ofQuery s.limits database selector options).remaining .start = target := by
      rw [Plan.remaining, htarget]
      rfl
    have hresult := hserves.result hrun (by rw [htarget]; exact hpos) (Nat.zero_le _) rfl
    rw [hremaining] at hresult
    obtain ⟨hrows, herror, hrounds, hstate⟩ := hresult hquiet
    simp only [result, hfind]
    exact ⟨hstable, by rw [ResultSet.isOk]; exact herror ▸ rfl, hrows, hrounds, hstate⟩

end

/-- Two of three people, the active one first and one a page, on a store whose planned failure is over. -/
theorem find_eq_unpaged_active_first :
    let a : Json := .object [("active", .bool false), ("id", .string "a")]
    let b : Json := .object [("active", .bool true), ("id", .string "b")]
    let c : Json := .object [("active", .bool false), ("id", .string "c")]
    let people : Collection := ⟨[a, b, c], [⟨"_design/x", "x", ["active", "name"]⟩]⟩
    let s : Store := ⟨[("people", people)], ⟨1, 100⟩, 1, some ⟨1, 500, "down", ""⟩⟩
    let options : QueryOptions :=
      { QueryOptions.default with sort := some [⟨"active", .descending⟩], limit := some 2 }
    let result := (find (Store.backend s.limits) "people" ⟨.present "id", rfl⟩ options s).1.result
    1 ≤ s.limits.maxPageSize ∧ s.databases.get? "people" = some people ∧
      people.checkSort options.sort = .ok () ∧ options.pagination.target s.limits ≤ Text.maxWord ∧
      (∀ n, s.QuietFor n) ∧ result.rows = [b, a] ∧ result.rounds = 2 := by
  intro a b c people s options result
  have hquiet : ∀ n, s.QuietFor n := fun n f hf => by
    cases hf
    exact .inl (Nat.le_refl 1)
  have hfind := find_eq_unpaged s "people" people ⟨.present "id", rfl⟩ options (by decide) rfl rfl (by decide)
    (hquiet _)
  obtain ⟨-, -, hrows, hrounds, -⟩ := hfind
  have hab : SortField.precedes [⟨"active", .descending⟩] a b = false := rfl
  have hac : SortField.precedes [⟨"active", .descending⟩] a c = true := rfl
  have hbc : SortField.precedes [⟨"active", .descending⟩] b c = true := rfl
  have hsorted : [a, b, c].mergeSort (SortField.precedes [⟨"active", .descending⟩]) = [b, a, c] := by
    simp [List.mergeSort, List.MergeSort.Internal.splitInTwo, hab, hac, hbc]
  refine ⟨by decide, rfl, rfl, by decide, hquiet, hrows.trans ?_, hrounds.trans ?_⟩
  · exact congrArg (fun rows => (rows.map (Collection.project none)).take 2) hsorted
  · exact congrArg (fun rows => roundCount 2 1 (rows.map (Collection.project none)).length) hsorted

end Store

end PagedFind
