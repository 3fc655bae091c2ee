import PagedFind.Proofs.Find.Runs
import PagedFind.Regex.Match

namespace PagedFind

section

variable [Regex.Engine]

def Plan.positionAfter (plan : Plan) : Position → List Exchange → Position
  | p, [] => p
  | p, ⟨_, .ok page⟩ :: calls => plan.positionAfter (plan.next p page) calls
  | p, ⟨_, .error _⟩ :: calls => plan.positionAfter p calls

/-- Calls as rounds make them from a position on, each for what is wanted there. They may break off after any call, as
rounds do whose number is limited, but none comes after a failure or a last page. -/
inductive Plan.Calls (plan : Plan) : Position → List Exchange → Prop where
  | none {p : Position} : plan.Calls p []
  | failed {p : Position} {e : FindError} : plan.Calls p [⟨plan.roundRequest p, .error e⟩]
  | answered {p : Position} {page : Page} {calls : List Exchange} (go : calls ≠ [] → plan.isLast p page = false)
      (next : plan.Calls (plan.next p page) calls) : plan.Calls p (⟨plan.roundRequest p, .ok page⟩ :: calls)

namespace Plan.Calls

variable {plan : Plan} {p : Position} {calls : List Exchange} {k : Nat} {call : Exchange}

theorem request_eq (h : plan.Calls p calls) (hk : calls[k]? = some call) :
    call.request = plan.roundRequest (plan.positionAfter p (calls.take k)) := by
  induction h generalizing k with
  | none => cases hk
  | failed =>
    cases k with
    | zero => cases hk; rfl
    | succ k => simp at hk
  | answered _ _ ih =>
    cases k with
    | zero => cases hk; rfl
    | succ k => exact ih hk

/-- A call that is followed by another brought a page that is not the last. -/
theorem followed (h : plan.Calls p calls) (hk : calls[k]? = some call) (hnext : k + 1 < calls.length) :
    ∃ page, call.outcome = .ok page ∧ plan.isLast (plan.positionAfter p (calls.take k)) page = false := by
  induction h generalizing k with
  | none => cases hk
  | failed => exact absurd hnext (by simp)
  | answered go _ ih =>
    cases k with
    | zero =>
      cases hk
      exact ⟨_, rfl, go (List.ne_nil_of_length_pos (Nat.succ_lt_succ_iff.mp hnext))⟩
    | succ k => exact ih hk (Nat.succ_lt_succ_iff.mp hnext)

/-- Before each call rows are still wanted, and all rows of the calls before it have been kept. -/
theorem collected_before (h : plan.Calls p calls) (hp : p.collected < plan.target) (hk : calls[k]? = some call) :
    (plan.positionAfter p (calls.take k)).collected = p.collected + (Exchange.docs (calls.take k)).length ∧
      (plan.positionAfter p (calls.take k)).collected < plan.target := by
  induction h generalizing k with
  | none => cases hk
  | failed =>
    cases k with
    | zero => exact ⟨rfl, hp⟩
    | succ k => simp at hk
  | @answered p page calls go _ ih =>
    cases k with
    | zero => exact ⟨rfl, hp⟩
    | succ k =>
      have hgo := go (List.ne_nil_of_mem (List.mem_of_getElem? hk))
      obtain ⟨hcollected, hlt⟩ := ih (next_collected_lt hgo) hk
      rw [next_collected_of_not_last hgo] at hcollected
      refine ⟨?_, hlt⟩
      simp only [List.take_succ_cons, positionAfter, Exchange.docs_ok, List.length_append]
      omega

theorem limit_eq (h : plan.Calls p calls) (hp : p.collected < plan.target) (hk : calls[k]? = some call) :
    call.request.limit =
      some (min (plan.target - (p.collected + (Exchange.docs (calls.take k)).length)) plan.pageLimit) := by
  obtain ⟨hcollected, -⟩ := h.collected_before hp hk
  rw [h.request_eq hk, ← hcollected]
  rfl

theorem round_before (h : plan.Calls p calls) (hk : calls[k]? = some call) :
    (plan.positionAfter p (calls.take k)).round = p.round + k := by
  induction h generalizing k with
  | none => cases hk
  | failed =>
    cases k with
    | zero => rfl
    | succ k => simp at hk
  | @answered p page _ _ _ ih =>
    cases k with
    | zero => rfl
    | succ k =>
      have hround := ih hk
      have hfirst : (plan.next p page).round = p.round + 1 := rfl
      rw [List.take_succ_cons, positionAfter]
      omega

end Plan.Calls

variable {σ : Type} {backend : Backend (StateM σ)} {plan : Plan} {p : Position} {s s' : σ} {run : Run}

theorem rounds_calls (backend : Backend (StateM σ)) (plan : Plan) (fuel : Nat) (p : Position) (s : σ) :
    plan.Calls p (rounds backend plan fuel p s).1.exchanges := by
  refine rounds_induction backend plan (motive := fun _ p _ run _ => plan.Calls p run.exchanges)
    ?zero ?failed ?last ?more fuel p s
  case zero => exact fun p s => .none
  case failed => exact fun fuel p s e events s' _ => .failed
  case last => exact fun fuel p s page events s' _ _ => .answered (absurd rfl) .none
  case more => exact fun fuel p s page events s' rest s'' _ go ih => .answered (fun _ => go) ih

theorem RunsTo.calls (h : RunsTo backend plan p s run s') : plan.Calls p run.exchanges := by
  induction h with
  | failed _ => exact .failed
  | last _ _ => exact .answered (absurd rfl) .none
  | more _ go _ ih => exact .answered (fun _ => go) ih

theorem RunsTo.request_eq (h : RunsTo backend plan p s run s') {k : Nat} {call : Exchange}
    (hk : run.exchanges[k]? = some call) :
    call.request = plan.roundRequest (plan.positionAfter p (run.exchanges.take k)) := h.calls.request_eq hk

theorem RunsTo.collected_before (h : RunsTo backend plan p s run s') (hp : p.collected < plan.target)
    {k : Nat} {call : Exchange} (hk : run.exchanges[k]? = some call) :
    (plan.positionAfter p (run.exchanges.take k)).collected
        = p.collected + (Exchange.docs (run.exchanges.take k)).length ∧
      (plan.positionAfter p (run.exchanges.take k)).collected < plan.target := h.calls.collected_before hp hk

theorem RunsTo.bookmark_zero (h : RunsTo backend plan p s run s') {call : Exchange}
    (hk : run.exchanges[0]? = some call) : call.request.bookmark = p.bookmark := by
  rw [h.request_eq hk]
  rfl

/-- Each call goes on from the bookmark of the page before it. -/
theorem RunsTo.bookmark_succ (h : RunsTo backend plan p s run s') {k : Nat} {call : Exchange}
    (hk : run.exchanges[k + 1]? = some call) :
    ∃ request page, run.exchanges[k]? = some ⟨request, .ok page⟩ ∧
      call.request.bookmark = page.bookmark := by
  induction h generalizing k with
  | failed _ => simp [Plan.failedRun] at hk
  | last _ _ => simp [Plan.roundRun, Run.empty] at hk
  | @more p _ _ _ page _ rest _ _ next ih =>
    cases k with
    | zero => exact ⟨plan.roundRequest p, page, rfl, next.bookmark_zero hk⟩
    | succ k => exact ih hk

section

variable (backend : Backend (StateM σ)) (database : String) (selector : Selector) (options : QueryOptions) (s : σ)

theorem findCalls_calls :
    (Plan.ofQuery backend.limits database selector options).Calls .start
      (findCalls backend database selector options s) := by
  rcases Nat.eq_zero_or_pos (options.pagination.target backend.limits) with hzero | hpos
  · rw [(find_of_target_eq_zero backend database selector options s hzero).2]
    exact .none
  · rw [(find_of_target_pos backend database selector options s rfl hpos).2]
    exact rounds_calls _ _ _ _ _

theorem start_lt_target_of_findCalls (h : findCalls backend database selector options s ≠ []) :
    Position.start.collected < (Plan.ofQuery backend.limits database selector options).target := by
  rw [Plan.ofQuery_target]
  rcases Nat.eq_zero_or_pos (options.pagination.target backend.limits) with hzero | hpos
  · exact absurd (find_of_target_eq_zero backend database selector options s hzero).2 h
  · exact hpos

end

/-- Each call of a find is the query itself, for a page of the rows still wanted, from the bookmark of the page
before it. -/
theorem find_requests (backend : Backend (StateM σ)) (hpage : 1 ≤ backend.limits.maxPageSize)
    (database : String) (selector : Selector) (options : QueryOptions) (s : σ) (k : Nat) (call : Exchange)
    (hcall : (findCalls backend database selector options s)[k]? = some call) :
    let plan := Plan.ofQuery backend.limits database selector options
    let target := options.pagination.target backend.limits
    let calls := findCalls backend database selector options s
    let collected := (Exchange.docs (calls.take k)).length
    let size := min (target - collected) backend.limits.maxPageSize
    call.request = { FindRequest.base selector options with
        limit := some size, bookmark := call.request.bookmark } ∧
      1 ≤ size ∧ size ≤ backend.limits.maxPageSize ∧ collected < target ∧
      (plan.positionAfter .start (calls.take k)).collected = collected ∧
      (k = 0 → call.request.bookmark = none) ∧
      (∀ j, k = j + 1 → ∃ request page, calls[j]? = some ⟨request, .ok page⟩ ∧
        call.request.bookmark = page.bookmark) := by
  intro plan target calls collected size
  have hplan : plan.target = target := Plan.ofQuery_target _ _ _ _
  rcases Nat.eq_zero_or_pos target with hzero | hpos
  · have hnone := (find_of_target_eq_zero backend database selector options s hzero).2
    rw [hnone] at hcall
    simp at hcall
  · obtain ⟨run, s', hrun, -, hcalls⟩ :=
      find_runsTo backend database selector options s hpage rfl hpos
    have hexchanges : calls = run.exchanges := hcalls
    rw [hcalls] at hcall
    obtain ⟨hcollected, hlt⟩ := hrun.collected_before (hplan ▸ hpos) hcall
    have hrequest := hrun.request_eq hcall
    rw [← hexchanges] at hcollected hlt hrequest
    have hstart : (plan.positionAfter .start (calls.take k)).collected = collected := by
      rw [hcollected]
      exact Nat.zero_add _
    have hremaining : plan.remaining (plan.positionAfter .start (calls.take k)) = target - collected := by
      rw [Plan.remaining, hstart, hplan]
    have hsize : plan.pageSize (plan.positionAfter .start (calls.take k)) = size := by
      rw [Plan.pageSize, hremaining]
      rfl
    have hcollectedLt : collected < target := by rw [← hstart, ← hplan]; exact hlt
    refine ⟨?_, by omega, Nat.min_le_right _ _, hcollectedLt, hstart, ?_, ?_⟩
    · rw [hrequest, Plan.roundRequest, hsize]
      rfl
    · rintro rfl
      exact hrun.bookmark_zero hcall
    · rintro j rfl
      rw [hexchanges]
      exact hrun.bookmark_succ hcall

end

/-- After a page of three rows, where two were asked for, one of four is still wanted. -/
theorem find_requests_after_overshoot :
    let answers : List (Except FindError Page) :=
      [.ok ⟨[.nat 1, .nat 2, .nat 3], some "a", none⟩, .ok ⟨[.nat 4], some "b", none⟩]
    let options : QueryOptions := { QueryOptions.default with limit := some 4 }
    ∃ call, (findCalls (.scripted ⟨2, 10⟩) "people" .everything options answers)[1]? = some call ∧
      call.request = { FindRequest.base .everything options with
        limit := some 1, bookmark := call.request.bookmark } ∧
      call.request.bookmark = some "a" :=
  ⟨_, rfl, (find_requests (.scripted ⟨2, 10⟩) (by decide) "people" .everything
    { QueryOptions.default with limit := some 4 }
    [.ok ⟨[.nat 1, .nat 2, .nat 3], some "a", none⟩, .ok ⟨[.nat 4], some "b", none⟩] 1 _ rfl).1, rfl⟩

end PagedFind
