import PagedFind.Proofs.Store.Paging
import PagedFind.Regex.Match

namespace PagedFind

namespace Collection

variable [Regex.Engine] {c : Collection} {selector : Selector} {options : QueryOptions}

/-- A page whose end is no number of sixty-four bits is not served, however few rows there are. -/
theorem page_forRound_of_overflow {pageLimit n r : Nat} {bookmark : Option String}
    (hsort : c.checkSort options.sort = .ok ()) (hoffset : offset bookmark = .ok r)
    (hr : r ≤ (c.unpaged selector options).length) (hn : n ≤ pageLimit) (hword : Text.maxWord < r + n) :
    c.page pageLimit ((FindRequest.base selector options).forRound n bookmark) = .error .pageOverflow := by
  have hlength : (c.selected ((FindRequest.base selector options).forRound n bookmark)).length
      = (c.unpaged selector options).length := by
    rw [← selected_map_project n bookmark, List.length_map]
  have hsort' : c.checkSort ((FindRequest.base selector options).forRound n bookmark).sort = .ok () := hsort
  have hoffset' : offset ((FindRequest.base selector options).forRound n bookmark).bookmark = .ok r := hoffset
  have hlimit : ((FindRequest.base selector options).forRound n bookmark).limit.getD defaultLimit = n := rfl
  simp only [page, hsort', hoffset', hlength, hlimit, Nat.min_eq_left hr, Nat.min_eq_left hn, if_pos hword]

theorem unpaged_of_pairwise (h : (c.documents.filter selector.document.isMatch).Pairwise
      (SortField.precedes (options.sort.getD SortField.byId) · ·)) :
    c.unpaged selector options = (c.documents.filter selector.document.isMatch).map (project options.fields) := by
  rw [unpaged, List.mergeSort_of_pairwise h]

end Collection

namespace Store

section

variable [Regex.Engine] {s s' t : Store} {limits : Limits} {plan : Plan} {p : Position} {run : Run} {c : Collection}
  {selector : Selector} {options : QueryOptions} {database : String} {f : PlannedFailure}

omit [Regex.Engine] in
theorem quietFor_one_or_due (s : Store) :
    s.QuietFor 1 ∨ ∃ f, s.failure = some f ∧ f.call = s.calls + 1 := by
  by_cases hdue : ∃ f, s.failure = some f ∧ f.call = s.calls + 1
  · exact .inr hdue
  · refine .inl fun f hf => ?_
    have hne : f.call ≠ s.calls + 1 := fun h => hdue ⟨f, hf, h⟩
    omega

theorem answer_of_due (database : String) (request : FindRequest) (hf : s.failure = some f)
    (hdue : f.call = s.calls + 1) : s.answer database request = .error (.backend f.status f.error f.reason) := by
  have hfilter : s.failure.filter (fun f => decide (f.call = s.calls + 1)) = some f := by
    rw [hf]
    exact Option.filter_some_pos (decide_eq_true hdue)
  simp only [answer, hfilter]

theorem execute_of_due (limits : Limits) (database : String) (request : FindRequest)
    (hf : s.failure = some f) (hdue : f.call = s.calls + 1) :
    (Store.backend limits).execute database request s
      = (⟨.error (.backend f.status f.error f.reason), []⟩, s.called 1) := by
  simp only [Store.backend, Store.execute, answer_of_due database request hf hdue]
  rfl

theorem Serves.page_of_execute (h : s.Serves plan c selector options) (hwanted : p.collected < plan.target)
    (hp : InStep c selector options p) {page : Page} {events : List Event}
    (call : (Store.backend limits).execute plan.database (plan.roundRequest p) s = (⟨.ok page, events⟩, s')) :
    page = pageAt plan c selector options p ∧ s' = s.called 1 ∧ s.QuietFor 1 := by
  rcases s.quietFor_one_or_due with hquiet | ⟨f, hf, hdue⟩
  · rw [h.execute limits hquiet hwanted hp.offset] at call
    cases call
    exact ⟨rfl, rfl, hquiet⟩
  · rw [execute_of_due limits _ _ hf hdue] at call
    cases call

/-- A result from a position on: the rows that follow those collected, with a bookmark that leads to the end of
them, or none where there was no page. -/
structure Resumable (c : Collection) (selector : Selector) (options : QueryOptions) (p : Position)
    (r : ResultSet) : Prop where
  rows : r.rows = ((c.unpaged selector options).drop p.collected).take r.rows.length
  there : p.collected + r.rows.length ≤ (c.unpaged selector options).length
  offset : Collection.offset (r.bookmark <|> p.bookmark) = .ok (p.collected + r.rows.length)

theorem InStep.resumable_failed (hp : InStep c selector options p) (e : FindError) :
    Resumable c selector options p (.failed e) := ⟨rfl, hp.there, hp.offset⟩

theorem InStep.resumable_empty (hp : InStep c selector options p) :
    Resumable c selector options p .empty := ⟨rfl, hp.there, hp.offset⟩

theorem after_pageAt_bookmark (plan : Plan) (c : Collection) (selector : Selector) (options : QueryOptions)
    (p : Position) (rows : List Json) (warning : Option String) (rest : ResultSet) :
    ((rest.after rows (pageAt plan c selector options p).bookmark warning).bookmark <|> p.bookmark)
      = (rest.bookmark <|> (pageAt plan c selector options p).bookmark) :=
  ResultSet.after_bookmark_orElse rows (Bookmark.encode_ne_empty _) p.bookmark warning rest

theorem Resumable.after {rest : ResultSet}
    (h : Resumable c selector options (plan.next p (pageAt plan c selector options p)) rest) :
    Resumable c selector options p (rest.after (plan.kept p (pageAt plan c selector options p))
      (pageAt plan c selector options p).bookmark (pageAt plan c selector options p).warning) := by
  obtain ⟨hrows, hthere, hoffset⟩ := h
  -- A page is kept whole, so the rest of the rows starts where its bookmark leads.
  rw [next_pageAt_collected] at hrows hthere hoffset
  have hlength : (rest.after (plan.kept p (pageAt plan c selector options p))
      (pageAt plan c selector options p).bookmark (pageAt plan c selector options p).warning).rows.length
        = (pageAt plan c selector options p).docs.length + rest.rows.length := by
    rw [ResultSet.after, kept_pageAt, List.length_append]
  refine ⟨?_, ?_, ?_⟩
  · rw [hlength, List.take_add, List.drop_drop, ← pageAt_docs, ← hrows, ResultSet.after, kept_pageAt]
  · omega
  · rw [hlength, after_pageAt_bookmark, ← Nat.add_assoc]
    exact hoffset

/-- Whatever ends a run over a store, its result can be resumed. -/
theorem Serves.resumable (hrun : RunsTo (Store.backend limits) plan p s run s')
    (h : s.Serves plan c selector options) (hwanted : p.collected < plan.target)
    (hp : InStep c selector options p) : Resumable c selector options p run.result := by
  induction hrun with
  | failed call => exact hp.resumable_failed _
  | last call stop =>
    obtain ⟨rfl, -⟩ := h.page_of_execute hwanted hp call
    exact (h.inStep_next hwanted hp).resumable_empty.after
  | more call go next ih =>
    obtain ⟨rfl, rfl, -⟩ := h.page_of_execute hwanted hp call
    exact (ih (h.called 1) (Plan.next_collected_lt go) (h.inStep_next hwanted hp)).after

/-- A run over a store that reaches a planned failure keeps the whole pages of the rounds before it. -/
theorem Serves.result_of_failure (hrun : RunsTo (Store.backend limits) plan p s run s')
    (h : s.Serves plan c selector options) (hwanted : p.collected < plan.target)
    (hp : InStep c selector options p) (hf : s.failure = some f) {k : Nat} (hdue : f.call = s.calls + k + 1)
    (hreached : k < roundCount (plan.remaining p) plan.pageLimit
      ((c.unpaged selector options).length - p.collected)) :
    run.result.rows.length = k * plan.pageLimit ∧
      run.result.rounds = k ∧ run.result.error = some (.backend f.status f.error f.reason) ∧
      s' = s.called (k + 1) := by
  -- `k` counts the rounds from here to the failure, so a round that goes through takes one from it.
  induction hrun generalizing k with
  | @failed p s s' e events call =>
    rcases s.quietFor_one_or_due with hquiet | ⟨g, hg, hnow⟩
    · rw [h.execute limits hquiet hwanted hp.offset] at call
      cases call
    · cases hf.symm.trans hg
      have hk : k = 0 := by omega
      subst hk
      rw [execute_of_due limits _ _ hg hnow] at call
      cases call
      rw [Nat.zero_mul]
      exact ⟨rfl, rfl, rfl, rfl⟩
  | @last p s s' page events call stop =>
    obtain ⟨rfl, rfl, hquiet⟩ := h.page_of_execute hwanted hp call
    have hcount := roundCount_last h.page (Plan.remaining_pos hwanted) (h.enough_of_last hwanted hp stop)
    have hlater := hquiet f hf
    omega
  | @more p s s' s'' page events rest call go next ih =>
    obtain ⟨rfl, rfl, hquiet⟩ := h.page_of_execute hwanted hp call
    obtain ⟨hlength, hcount⟩ := h.roundCount_of_more hwanted hp go
    have hlater := hquiet f hf
    obtain ⟨j, rfl⟩ := Nat.exists_eq_succ_of_ne_zero (show k ≠ 0 by omega)
    have hcalls : (s.called 1).calls = s.calls + 1 := rfl
    have hdue' : f.call = (s.called 1).calls + j + 1 := by omega
    obtain ⟨hrows, hrounds, herror, hstate⟩ := ih (h.called 1) (Plan.next_collected_lt go)
      (h.inStep_next hwanted hp) hf hdue' (by omega)
    refine ⟨?_, congrArg (· + 1) hrounds, herror, ?_⟩
    · rw [Plan.roundRun, ResultSet.after, kept_pageAt, List.length_append, hlength, hrows, Nat.succ_mul,
        Nat.add_comm]
    · rw [hstate, called_called, Nat.add_comm]

/-- The rows of a result from the start are the first ones of the query. -/
theorem Resumable.rows_eq_take {r : ResultSet} (h : Resumable c selector options .start r) :
    r.rows = (c.unpaged selector options).take r.rows.length := h.rows

theorem Resumable.offset_bookmark {r : ResultSet} (h : Resumable c selector options .start r) :
    Collection.offset r.bookmark = .ok r.rows.length := by
  have hoffset := h.offset
  have hcollected : Position.start.collected + r.rows.length = r.rows.length := Nat.zero_add _
  have hbookmark : (r.bookmark <|> Position.start.bookmark) = r.bookmark := by
    cases r.bookmark <;> rfl
  rwa [hcollected, hbookmark] at hoffset

/-- The page from the bookmark of a result holds the rows that follow it, if its end is a number of sixty-four
bits. -/
theorem Resumable.execute {r : ResultSet} (h : Resumable c selector options .start r)
    (hdb : t.databases.get? database = some c) (hsort : c.checkSort options.sort = .ok ())
    (hquiet : t.QuietFor 1) {n : Nat} (hn : n ≤ t.limits.maxPageSize) :
    (t.execute database ((FindRequest.base selector options).forRound n r.bookmark)).1 =
      if r.rows.length + n ≤ Text.maxWord then
        .ok ⟨((c.unpaged selector options).drop r.rows.length).take n,
          some (Bookmark.encode (min (r.rows.length + n) (c.unpaged selector options).length)),
          c.warning? options.useIndex⟩
      else .error .pageOverflow := by
  have hthere : r.rows.length ≤ (c.unpaged selector options).length := by
    have := h.there
    omega
  rw [Store.execute, answer_of_quiet hquiet hdb]
  split
  next hword => exact Collection.page_forRound hsort h.offset_bookmark hn hword
  next hword =>
    exact Collection.page_forRound_of_overflow hsort h.offset_bookmark hthere hn (Nat.lt_of_not_le hword)

section

variable (s : Store) (database : String) (c : Collection) (selector : Selector) (options : QueryOptions)
  (hpage : 1 ≤ s.limits.maxPageSize) (hdb : s.databases.get? database = some c)
  (hsort : c.checkSort options.sort = .ok ()) (hword : options.pagination.target s.limits ≤ Text.maxWord)

include hpage hdb hsort hword

/-- What a find over a store comes to: a run from the start, or nothing where no row is wanted. -/
theorem find_cases :
    (options.pagination.target s.limits = 0 ∧
        find (Store.backend s.limits) database selector options s = (.empty, s)) ∨
      ∃ plan run s', s.Serves plan c selector options ∧ plan.target = options.pagination.target s.limits ∧
        Position.start.collected < plan.target ∧ RunsTo (Store.backend s.limits) plan .start s run s' ∧
        find (Store.backend s.limits) database selector options s = (plan.framed run, s') := by
  rcases Nat.eq_zero_or_pos (options.pagination.target s.limits) with hzero | hpos
  · exact .inl ⟨hzero, (find_of_target_eq_zero (Store.backend s.limits) database selector options s hzero).1⟩
  · obtain ⟨run, s', hrun, hfind, -⟩ :=
      find_runsTo (Store.backend s.limits) database selector options s hpage rfl hpos
    have htarget := Plan.ofQuery_target s.limits database selector options
    exact .inr ⟨_, run, s', serves_ofQuery selector hpage hdb hsort hword, htarget, htarget ▸ hpos, hrun, hfind⟩

theorem find_resumable :
    Resumable c selector options .start
      (find (Store.backend s.limits) database selector options s).1.result := by
  rcases find_cases s database c selector options hpage hdb hsort hword with
    ⟨-, hfind⟩ | ⟨plan, run, s', h, -, hstart, hrun, hfind⟩
  · rw [hfind]
    exact (InStep.start c selector options).resumable_empty
  · have hresumable := Serves.resumable hrun h hstart (InStep.start c selector options)
    rw [hfind]
    exact hresumable

theorem find_of_no_failure (hnone : s.failure = none) :
    (find (Store.backend s.limits) database selector options s).1.result.rows
        = (c.unpaged selector options).take (options.pagination.target s.limits) ∧
      (find (Store.backend s.limits) database selector options s).2
        = s.called (roundCount (options.pagination.target s.limits) s.limits.maxPageSize
          (c.unpaged selector options).length) := by
  rcases find_cases s database c selector options hpage hdb hsort hword with
    ⟨hzero, hfind⟩ | ⟨plan, run, s', h, htarget, hstart, hrun, hfind⟩
  · rw [hfind, hzero]
    exact ⟨rfl, rfl⟩
  · obtain ⟨hrows, -, hrounds, hstate⟩ :=
      h.result hrun hstart (Nat.zero_le _) rfl (quietFor_of_failure_eq_none hnone _)
    rw [hfind, hstate, hrounds, h.limit, ← htarget]
    exact ⟨hrows, rfl⟩

theorem find_of_failure {f : PlannedFailure} (hf : s.failure = some f) {k : Nat}
    (hdue : f.call = s.calls + k + 1)
    (hreached : k < roundCount (options.pagination.target s.limits) s.limits.maxPageSize
      (c.unpaged selector options).length) :
    (find (Store.backend s.limits) database selector options s).1.result.rows.length
        = k * s.limits.maxPageSize ∧
      (find (Store.backend s.limits) database selector options s).1.result.rounds = k ∧
      (find (Store.backend s.limits) database selector options s).1.result.error
        = some (.backend f.status f.error f.reason) ∧
      (find (Store.backend s.limits) database selector options s).2 = s.called (k + 1) := by
  rcases find_cases s database c selector options hpage hdb hsort hword with
    ⟨hzero, -⟩ | ⟨plan, run, s', h, htarget, hstart, hrun, hfind⟩
  · rw [hzero] at hreached
    exact absurd hreached (Nat.not_lt_zero _)
  · rw [← htarget, h.limit] at hreached
    have hresult := h.result_of_failure hrun hstart (InStep.start c selector options) hf hdue hreached
    rw [hfind, h.limit]
    exact hresult

end

/-- A find that its planned failure meets at a call keeps just the whole pages of the calls before that one. And
whatever ends a find, its rows are the first ones of the query, and the page of any size that is asked for from its
bookmark holds the rows that follow them, as long as the end of that page is a number of sixty-four bits. -/
theorem find_resumes (s : Store) (database : String) (c : Collection) (selector : Selector)
    (options : QueryOptions) (hpage : 1 ≤ s.limits.maxPageSize)
    (hdb : s.databases.get? database = some c) (hsort : c.checkSort options.sort = .ok ())
    (hword : options.pagination.target s.limits ≤ Text.maxWord) :
    let rows := c.unpaged selector options
    let unfailing := find (Store.backend s.limits) database selector options { s with failure := none }
    let run := find (Store.backend s.limits) database selector options s
    let result := run.1.result
    let collected := result.rows.length
    (∀ f k, s.failure = some f → f.call = s.calls + k → 1 ≤ k → f.call ≤ unfailing.2.calls →
      result.rows = rows.take ((k - 1) * s.limits.maxPageSize) ∧ result.rounds = k - 1 ∧
        result.error = some (.backend f.status f.error f.reason) ∧ run.2 = s.called k) ∧
    result.rows = rows.take collected ∧ (result.bookmark = none → collected = 0) ∧
    ∀ (t : Store) (n : Nat), t.databases.get? database = some c → t.limits = s.limits → t.QuietFor 1 →
      n ≤ s.limits.maxPageSize →
      (t.execute database ((FindRequest.base selector options).forRound n result.bookmark)).1 =
        if collected + n ≤ Text.maxWord then
          .ok ⟨(rows.drop collected).take n, some (Bookmark.encode (min (collected + n) rows.length)),
            c.warning? options.useIndex⟩
        else .error .pageOverflow := by
  intro rows unfailing run result collected
  have hresumable : Resumable c selector options .start result :=
    find_resumable s database c selector options hpage hdb hsort hword
  refine ⟨?_, hresumable.rows_eq_take, ?_, ?_⟩
  · intro f k hf hdue hk hreached
    obtain ⟨-, hstate⟩ :=
      find_of_no_failure { s with failure := none } database c selector options hpage hdb hsort hword rfl
    obtain ⟨j, rfl⟩ := Nat.exists_eq_succ_of_ne_zero (Nat.ne_of_gt hk)
    have hlt : j < roundCount (options.pagination.target s.limits) s.limits.maxPageSize rows.length := by
      have hmade : unfailing.2.calls = s.calls
          + roundCount (options.pagination.target s.limits) s.limits.maxPageSize rows.length :=
        congrArg Store.calls hstate
      omega
    obtain ⟨hlength, hrounds, herror, hstate⟩ :=
      find_of_failure s database c selector options hpage hdb hsort hword hf (k := j) hdue hlt
    refine ⟨?_, hrounds, herror, hstate⟩
    rw [hresumable.rows_eq_take, Nat.succ_sub_one, ← hlength]
  · intro hnone
    have hoffset := hresumable.offset_bookmark
    rw [hnone] at hoffset
    cases hlength : result.rows.length with
    | zero => exact hlength
    | succ n =>
      rw [hlength] at hoffset
      cases hoffset
  · intro t n htdb hlimits hquiet hn
    exact hresumable.execute htdb hsort hquiet (hlimits ▸ hn)

end

/-- Of three people, one a page, the first is kept when the second call fails, and a later page goes on with the
second. -/
theorem find_resumes_after_failure :
    let a : Json := .object [("_id", .string "a")]
    let b : Json := .object [("_id", .string "b")]
    let c : Json := .object [("_id", .string "c")]
    let people : Collection := ⟨[a, b, c], []⟩
    let selector : Selector := ⟨.present "_id", rfl⟩
    let options : QueryOptions := { QueryOptions.default with limit := some 3 }
    let s : Store := ⟨[("people", people)], ⟨1, 100⟩, 3, some ⟨5, 500, "down", "no answer"⟩⟩
    let run := find (Store.backend s.limits) "people" selector options s
    1 ≤ s.limits.maxPageSize ∧ s.databases.get? "people" = some people ∧
      people.checkSort options.sort = .ok () ∧ options.pagination.target s.limits ≤ Text.maxWord ∧
      (find (Store.backend s.limits) "people" selector options { s with failure := none }).2.calls = 6 ∧
      run.1.result.rows = [a] ∧ run.1.result.error = some (.backend 500 "down" "no answer") ∧
      run.2.QuietFor 1 ∧
      (run.2.execute "people" ((FindRequest.base selector options).forRound 1 run.1.result.bookmark)).1
        = .ok ⟨[b], some (Bookmark.encode 2), people.warning? none⟩ := by
  intro a b c people selector options s run
  have hrows : people.unpaged selector options = [a, b, c] := Collection.unpaged_of_pairwise (by decide)
  have hcalls : (find (Store.backend s.limits) "people" selector options { s with failure := none }).2.calls
      = 6 := by
    have hstate := (find_of_no_failure { s with failure := none } "people" people selector options
      (by decide) rfl rfl (by decide) rfl).2
    rw [hrows] at hstate
    have hcount : roundCount 3 1 3 = 3 := by decide
    have hmade := congrArg Store.calls hstate
    exact hmade.trans (congrArg (3 + ·) hcount)
  obtain ⟨hfailure, -, -, hpage⟩ := find_resumes s "people" people selector options (by decide) rfl rfl (by decide)
  obtain ⟨hkept, -, herror, hstate⟩ :=
    hfailure ⟨5, 500, "down", "no answer"⟩ 2 rfl rfl (by decide) (by rw [hcalls]; decide)
  rw [hrows] at hkept hpage
  have hquiet : run.2.QuietFor 1 := by
    rw [hstate]
    intro f hf
    cases hf
    exact .inl (Nat.le_refl 5)
  have hnext := hpage run.2 1 (by rw [hstate]; rfl) (by rw [hstate]; rfl) hquiet (by decide)
  have hfirst : run.1.result.rows = [a] := hkept
  have hend : [a].length + 1 ≤ Text.maxWord := by decide
  rw [hfirst, if_pos hend] at hnext
  exact ⟨by decide, rfl, rfl, by decide, hcalls, hfirst, herror, hquiet, hnext⟩

/-- The page after two of three people is not the third where the page may be as long as there are numbers of
sixty-four bits. -/
theorem resumed_page_overflows :
    let a : Json := .object [("_id", .string "a")]
    let b : Json := .object [("_id", .string "b")]
    let c : Json := .object [("_id", .string "c")]
    let people : Collection := ⟨[a, b, c], []⟩
    let selector : Selector := ⟨.present "_id", rfl⟩
    let options : QueryOptions := { QueryOptions.default with limit := some 2 }
    let s : Store := ⟨[("people", people)], ⟨Text.maxWord, 100⟩, 0, none⟩
    let run := find (Store.backend s.limits) "people" selector options s
    let n := Text.maxWord - 1
    1 ≤ n ∧ n < s.limits.maxPageSize ∧ run.1.result.rows = [a, b] ∧ run.2 = s.called 1 ∧
      ((people.unpaged selector options).drop 2).take n = [c] ∧
      (run.2.execute "people" ((FindRequest.base selector options).forRound n run.1.result.bookmark)).1
        = .error .pageOverflow := by
  intro a b c people selector options s run n
  have hrows : people.unpaged selector options = [a, b, c] := Collection.unpaged_of_pairwise (by decide)
  obtain ⟨hkept, hstate⟩ := find_of_no_failure s "people" people selector options (by decide) rfl rfl
    (by decide) rfl
  rw [hrows] at hkept hstate
  have hcount : roundCount 2 Text.maxWord 3 = 1 := by decide
  have hstate : run.2 = s.called 1 := hstate.trans (congrArg s.called hcount)
  have hlast : ([c] : List Json).take n = [c] := List.take_of_length_le (by decide)
  have hresumable := find_resumable s "people" people selector options (by decide) rfl rfl (by decide)
  have hquiet : run.2.QuietFor 1 := by
    rw [hstate]
    intro f hf
    cases hf
  have hdb : run.2.databases.get? "people" = some people := by
    rw [hstate]
    rfl
  have hsize : n ≤ run.2.limits.maxPageSize := by
    rw [hstate]
    decide
  have hnext := hresumable.execute hdb rfl hquiet hsize
  have hend : ¬[a, b].length + n ≤ Text.maxWord := by decide
  have hfirst : run.1.result.rows = [a, b] := hkept
  rw [hfirst, if_neg hend] at hnext
  exact ⟨by decide, by decide, hfirst, hstate, by rw [hrows]; exact hlast, hnext⟩

end Store

end PagedFind
