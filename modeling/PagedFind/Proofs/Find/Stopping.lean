import PagedFind.Proofs.Find.Requests
import PagedFind.Proofs.Find.Results
import PagedFind.Regex.Match

namespace PagedFind

namespace Exchange

theorem docs_append (calls more : List Exchange) : docs (calls ++ more) = docs calls ++ docs more := by
  simp only [docs, pages, List.filterMap_append, List.flatMap_append]

theorem docs_take_succ {calls : List Exchange} {k : Nat} {call : Exchange} {page : Page}
    (hk : calls[k]? = some call) (hpage : call.outcome = .ok page) :
    docs (calls.take (k + 1)) = docs (calls.take k) ++ page.docs := by
  obtain ⟨request, outcome⟩ := call
  cases hpage
  rw [List.take_add_one, hk, docs_append, Option.toList_some, docs_ok, docs_nil, List.append_nil]

/-- The call brought a page as long as it asked for, which leads to another place than the call came from. -/
structure LeadsOn (call : Exchange) (page : Page) : Prop where
  outcome : call.outcome = .ok page
  full : ∃ size, call.request.limit = some size ∧ size ≤ page.docs.length
  somewhere : ∃ bookmark, page.bookmark = some bookmark ∧ bookmark ≠ ""
  elsewhere : page.bookmark ≠ call.request.bookmark

end Exchange

namespace Plan

variable [Regex.Engine] {plan : Plan} {p : Position} {page : Page}

/-- A round that does not reach the target asks for a whole page, so another one follows only where a whole page
came. -/
theorem pageLimit_le_of_not_last (h : plan.isLast p page = false) : plan.pageLimit ≤ page.docs.length := by
  obtain ⟨-, hfull, -⟩ := isLast_eq_false_iff.mp h
  have hlt := next_collected_lt h
  rw [next_collected_of_not_last h] at hlt
  unfold pageSize remaining at hfull
  omega

theorem single_ofQuery_iff {limits : Limits} {database : String} {selector : Selector}
    {options : QueryOptions} :
    (ofQuery limits database selector options).single = false ↔ options.pagination ≠ .single := by
  simp only [ofQuery, decide_eq_false_iff_not]

end Plan

section

variable [Regex.Engine] {σ : Type} {backend : Backend (StateM σ)} {plan : Plan} {p : Position} {s s' : σ} {run : Run}

theorem RunsTo.length_pos (h : RunsTo backend plan p s run s') : 0 < run.exchanges.length :=
  List.length_pos_iff.mpr h.exchanges_ne_nil

theorem RunsTo.length_eq_one_of_single (h : RunsTo backend plan p s run s') (hsingle : plan.single = true) :
    run.exchanges.length = 1 := by
  cases h with
  | failed => rfl
  | last => rfl
  | more _ go _ =>
    obtain ⟨hmany, -⟩ := Plan.isLast_eq_false_iff.mp go
    rw [hsingle] at hmany
    cases hmany

/-- Whole pages for all calls but the last do not reach what is wanted. -/
theorem RunsTo.length_mul_lt (h : RunsTo backend plan p s run s') (hp : p.collected < plan.target) :
    (run.exchanges.length - 1) * plan.pageLimit < plan.remaining p := by
  -- Every round but the last takes at least a whole page off the rows that are wanted, cut or not.
  induction h with
  | failed _ =>
    rw [show (Plan.failedRun _ _ _ _).exchanges.length - 1 = 0 from rfl, Nat.zero_mul]
    exact Plan.remaining_pos hp
  | last _ _ =>
    rw [show (Plan.roundRun _ _ _ _ .empty).exchanges.length - 1 = 0 from rfl, Nat.zero_mul]
    exact Plan.remaining_pos hp
  | @more p _ _ _ page events rest _ go next ih =>
    have hrest := ih (Plan.next_collected_lt go)
    have hwhole := Plan.pageLimit_le_of_not_last go
    have hremaining := Plan.remaining_of_not_last go
    have hpos := next.length_pos
    have hlength : (plan.roundRun p page events rest).exchanges.length - 1
        = rest.exchanges.length - 1 + 1 := by
      simp only [Plan.roundRun, List.length_cons]
      omega
    rw [hlength, Nat.succ_mul]
    omega

/-- There are no more calls than whole pages that it takes to hold the rows wanted. -/
theorem RunsTo.length_le (h : RunsTo backend plan p s run s') (hpage : 0 < plan.pageLimit)
    (hp : p.collected < plan.target) :
    run.exchanges.length ≤ (plan.remaining p + plan.pageLimit - 1) / plan.pageLimit := by
  have hlt := h.length_mul_lt hp
  have hpos := h.length_pos
  obtain ⟨n, hn⟩ := Nat.exists_eq_succ_of_ne_zero (Nat.ne_of_gt hpos)
  rw [hn, Nat.succ_sub_one] at hlt
  rw [Nat.le_div_iff_mul_le hpage, hn, Nat.succ_mul]
  omega

theorem RunsTo.followed_iff (h : RunsTo backend plan p s run s') {k : Nat} {call : Exchange}
    (hk : run.exchanges[k]? = some call) :
    k + 1 < run.exchanges.length ↔ ∃ page, call.outcome = .ok page ∧
      plan.isLast (plan.positionAfter p (run.exchanges.take k)) page = false := by
  induction h generalizing k with
  | failed _ =>
    cases k with
    | zero => cases hk; simp [Plan.failedRun]
    | succ k => simp [Plan.failedRun] at hk
  | last _ stop =>
    cases k with
    | zero => cases hk; simp [Plan.roundRun, Run.empty, Plan.positionAfter, stop]
    | succ k => simp [Plan.roundRun, Run.empty] at hk
  | @more p _ _ _ page _ rest _ go next ih =>
    cases k with
    | zero =>
      cases hk
      have hpos := next.length_pos
      have hfollowed : 0 + 1 < (rest.exchanges.length + 1) := by omega
      exact iff_of_true hfollowed ⟨page, rfl, go⟩
    | succ k =>
      have hrest := ih hk
      simp only [Plan.roundRun, List.length_cons, List.take_succ_cons, Plan.positionAfter]
      rw [← hrest]
      omega

/-- The same in terms of what the calls asked and brought. -/
theorem RunsTo.followed_iff_leadsOn (h : RunsTo backend plan p s run s') (hp : p.collected < plan.target)
    {k : Nat} {call : Exchange} (hk : run.exchanges[k]? = some call) :
    k + 1 < run.exchanges.length ↔ (∃ page, call.LeadsOn page) ∧ plan.single = false ∧
      p.collected + (Exchange.docs (run.exchanges.take (k + 1))).length < plan.target := by
  obtain ⟨hcollected, hlt⟩ := h.collected_before hp hk
  have hrequest := h.request_eq hk
  rw [h.followed_iff hk]
  generalize plan.positionAfter p (run.exchanges.take k) = q at hcollected hlt hrequest ⊢
  have hafter : ∀ page, call.outcome = .ok page → ((q.collected + (plan.kept q page).length < plan.target) ↔
      p.collected + (Exchange.docs (run.exchanges.take (k + 1))).length < plan.target) := by
    intro page houtcome
    rw [Exchange.docs_take_succ hk houtcome, List.length_append, Plan.kept, List.length_take, Plan.remaining]
    omega
  constructor
  · rintro ⟨page, houtcome, go⟩
    obtain ⟨hmany, hfull, hsomewhere, helsewhere, hwanted⟩ := Plan.isLast_eq_false_iff.mp go
    refine ⟨⟨page, houtcome, ⟨plan.pageSize q, ?_, hfull⟩, hsomewhere, ?_⟩, hmany, ?_⟩
    · rw [hrequest]
      rfl
    · rw [hrequest]
      exact helsewhere
    · exact (hafter page houtcome).mp hwanted
  · rintro ⟨⟨page, houtcome, ⟨size, hsize, hfull⟩, hsomewhere, helsewhere⟩, hmany, hwanted⟩
    rw [hrequest] at hsize helsewhere
    cases hsize
    exact ⟨page, houtcome, Plan.isLast_eq_false_iff.mpr
      ⟨hmany, hfull, hsomewhere, helsewhere, (hafter page houtcome).mpr hwanted⟩⟩

/-- A find for some rows calls at least once and at most as often as it takes whole pages to hold them, just once
where one round is asked for; and it calls again just where a call led on, more than one round may be made and rows
are still missing. -/
theorem find_calls_bounded (backend : Backend (StateM σ)) (hpage : 1 ≤ backend.limits.maxPageSize)
    (database : String) (selector : Selector) (options : QueryOptions) (s : σ)
    (htarget : 1 ≤ options.pagination.target backend.limits) :
    let target := options.pagination.target backend.limits
    let pageLimit := backend.limits.maxPageSize
    let calls := findCalls backend database selector options s
    1 ≤ calls.length ∧ calls.length ≤ (target + pageLimit - 1) / pageLimit ∧
      (options.pagination = .single → calls.length = 1) ∧
      ∀ k call, calls[k]? = some call →
        let collected := ((Exchange.docs (calls.take (k + 1))).take target).length
        (k + 1 < calls.length ↔
          (∃ page, call.LeadsOn page) ∧ options.pagination ≠ .single ∧ collected < target) := by
  intro target pageLimit calls
  obtain ⟨run, s', hrun, -, hcalls⟩ := find_runsTo backend database selector options s hpage rfl htarget
  have hexchanges : calls = run.exchanges := hcalls
  have hplan := Plan.ofQuery_target backend.limits database selector options
  have hstart : Position.start.collected < (Plan.ofQuery backend.limits database selector options).target := by
    rw [hplan]
    exact htarget
  rw [hexchanges]
  refine ⟨hrun.length_pos, ?_, ?_, ?_⟩
  · have hle := hrun.length_le hpage hstart
    rw [Plan.remaining, hplan] at hle
    exact hle
  · intro hsingle
    exact hrun.length_eq_one_of_single (decide_eq_true hsingle)
  · intro k call hk collected
    have hfollowed := hrun.followed_iff_leadsOn hstart hk
    have hcollected : collected < target ↔
        Position.start.collected + (Exchange.docs (run.exchanges.take (k + 1))).length < target := by
      simp only [collected, List.length_take, Position.start]
      omega
    rw [hfollowed, Plan.single_ofQuery_iff, hplan, hcollected]

end

def Backend.endless (limits : Limits) : Backend (StateM Nat) where
  limits := limits
  execute _ _ := fun n =>
    (⟨.ok ⟨[.nat (2 * n), .nat (2 * n + 1)], some (Nat.repr n), none⟩, []⟩, n + 1)
  createIndex _ _ := fun n => (⟨.error (.transport "no indexes"), []⟩, n)

/-- Pages that never end stop a find for five rows after three calls. -/
theorem find_calls_bounded_endless :
    let options : QueryOptions := { QueryOptions.default with limit := some 5 }
    let calls := findCalls (.endless ⟨2, 10⟩) "people" .everything options 0
    1 ≤ options.pagination.target ⟨2, 10⟩ ∧ calls.length ≤ (5 + 2 - 1) / 2 ∧ calls.length = 3 ∧
      ∀ call, calls[1]? = some call → ∃ page, call.LeadsOn page := by
  intro options calls
  obtain ⟨-, hle, -, hfollowed⟩ :=
    find_calls_bounded (.endless ⟨2, 10⟩) (by decide) "people" .everything options 0 (by decide)
  refine ⟨by decide, hle, rfl, fun call hcall => ?_⟩
  exact ((hfollowed 1 call hcall).mp (by decide)).1

end PagedFind
