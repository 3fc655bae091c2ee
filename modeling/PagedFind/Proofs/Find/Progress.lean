import PagedFind.Proofs.Find.Positions
import PagedFind.Proofs.Find.Stopping
import PagedFind.Regex.Match

namespace PagedFind

namespace Exchange

def emptyPages (calls : List Exchange) : List Page := (pages calls).filter (·.docs.isEmpty)

theorem length_emptyPages_ok (request : FindRequest) (page : Page) (calls : List Exchange) :
    1 + (emptyPages calls).length ≤ page.docs.length + (emptyPages (⟨request, .ok page⟩ :: calls)).length := by
  cases hdocs : page.docs with
  | nil => simp [emptyPages, hdocs, Nat.add_comm]
  | cons row rows => simp [emptyPages, hdocs]

theorem emptyPages_eq_nil {calls : List Exchange}
    (h : ∀ call ∈ calls, ∃ page, call.outcome = .ok page ∧ page.docs ≠ []) : emptyPages calls = [] := by
  refine List.filter_eq_nil_iff.mpr fun page hpage => ?_
  obtain ⟨call, hcall, hthere⟩ := List.mem_filterMap.mp hpage
  obtain ⟨page', houtcome, hrows⟩ := h call hcall
  rw [page?, houtcome] at hthere
  cases hthere
  rw [List.isEmpty_iff]
  exact hrows

end Exchange

/-- The backend whose pages never hold a row and always lead to another one. -/
def Backend.barren (limits : Limits) : Backend (StateM Nat) where
  limits := limits
  execute _ _ := fun n => (⟨.ok ⟨[], some (tally n), none⟩, []⟩, n + 1)
  createIndex _ _ := fun n => (⟨.error (.transport "no indexes"), []⟩, n)

section

variable [Regex.Engine]

/-- Every call but the last takes a row off those that are wanted, or brings a page without one. -/
theorem Plan.Calls.length_le {plan : Plan} {p : Position} {calls : List Exchange} (h : plan.Calls p calls)
    (hp : p.collected < plan.target) :
    calls.length ≤ plan.remaining p + (Exchange.emptyPages calls.dropLast).length := by
  induction h with
  | none => exact Nat.zero_le _
  | failed =>
    have hwanted := Plan.remaining_pos hp
    exact Nat.le_add_right_of_le hwanted
  | @answered p page calls go _ ih =>
    cases calls with
    | nil =>
      have hwanted := Plan.remaining_pos hp
      exact Nat.le_add_right_of_le hwanted
    | cons call calls =>
      have hgo := go (List.cons_ne_nil _ _)
      have hrest := ih (Plan.next_collected_lt hgo)
      have hremaining := Plan.remaining_of_not_last hgo
      have hcounted := Exchange.length_emptyPages_ok (plan.roundRequest p) page (call :: calls).dropLast
      rw [List.dropLast_cons_cons, List.length_cons]
      omega

section

variable {limits : Limits} {plan : Plan} {p : Position}

theorem isLast_barren (hmany : plan.single = false) (hlimit : plan.pageLimit = 0) (hp : p.collected < plan.target)
    {n : Nat} (hbefore : p.bookmark ≠ some (tally n)) : plan.isLast p ⟨[], some (tally n), none⟩ = false := by
  have hsize : plan.pageSize p = 0 := by rw [Plan.pageSize, hlimit, Nat.min_zero]
  have hkept : plan.kept p ⟨[], some (tally n), none⟩ = [] := List.take_nil
  refine Plan.isLast_eq_false_iff.mpr ⟨hmany, ?_, ⟨tally n, rfl, tally_ne_empty n⟩, hbefore.symm, ?_⟩
  · rw [hsize]
    exact Nat.zero_le _
  · rw [hkept]
    exact hp

omit [Regex.Engine] in
theorem tally_ne_succ (n : Nat) : some (tally n) ≠ some (tally (n + 1)) := by
  intro h
  have hplace := congrArg tallyPlace (Option.some.inj h)
  rw [tallyPlace_tally, tallyPlace_tally, Option.some.injEq] at hplace
  omega

theorem rounds_barren (hmany : plan.single = false) (hlimit : plan.pageLimit = 0) (fuel : Nat)
    (hp : p.collected < plan.target) {n : Nat} (hbefore : p.bookmark ≠ some (tally n)) :
    (rounds (.barren limits) plan fuel p n).1.exchanges.length = fuel := by
  induction fuel generalizing p n with
  | zero => rfl
  | succ fuel ih =>
    have go := isLast_barren hmany hlimit hp hbefore
    rw [rounds_more fuel rfl go, Plan.roundRun, List.length_cons, ih (Plan.next_collected_lt go) (tally_ne_succ n)]

/-- The rounds of a find over a barren backend do not come to an end. -/
theorem not_runsTo_barren (hmany : plan.single = false) (hlimit : plan.pageLimit = 0) (hp : p.collected < plan.target)
    {n n' : Nat} (hbefore : p.bookmark ≠ some (tally n)) (run : Run) : ¬RunsTo (.barren limits) plan p n run n' := by
  intro h
  induction h with
  | failed call => cases call
  | @last p n _ page _ call stop =>
    cases call
    rw [isLast_barren hmany hlimit hp hbefore] at stop
    cases stop
  | @more p n _ _ page _ _ call go _ ih =>
    cases call
    exact ih (Plan.next_collected_lt go) (tally_ne_succ n)

end

section

variable {σ : Type} (backend : Backend (StateM σ)) (database : String) (selector : Selector) (options : QueryOptions)
  (s : σ)

theorem findCalls_followed {k : Nat} {call : Exchange}
    (hk : (findCalls backend database selector options s)[k]? = some call)
    (hnext : k + 1 < (findCalls backend database selector options s).length) :
    ∃ page, call.outcome = .ok page ∧ (1 ≤ backend.limits.maxPageSize → page.docs ≠ []) := by
  have hmade := findCalls_calls backend database selector options s
  have hstart := start_lt_target_of_findCalls backend database selector options s
    (List.ne_nil_of_mem (List.mem_of_getElem? hk))
  obtain ⟨page, houtcome, go⟩ := hmade.followed hk hnext
  obtain ⟨-, hlt⟩ := hmade.collected_before hstart hk
  refine ⟨page, houtcome, fun hpage hnone => ?_⟩
  have hlimit : 0 < (Plan.ofQuery backend.limits database selector options).pageLimit := hpage
  have hgrow := Plan.collected_lt_next hlimit hlt go
  rw [Plan.next_collected_of_not_last go, hnone] at hgrow
  exact Nat.lt_irrefl _ hgrow

theorem findCalls_length_le :
    (findCalls backend database selector options s).length ≤ max (options.pagination.target backend.limits) 1
      + (Exchange.emptyPages (findCalls backend database selector options s).dropLast).length := by
  by_cases hnone : findCalls backend database selector options s = []
  · rw [hnone]
    exact Nat.zero_le _
  · have hstart := start_lt_target_of_findCalls backend database selector options s hnone
    have hle := (findCalls_calls backend database selector options s).length_le hstart
    rw [Plan.remaining, Plan.ofQuery_target, Position.start, Nat.sub_zero] at hle
    exact Nat.le_trans hle (Nat.add_le_add_right (Nat.le_max_left _ _) _)

theorem emptyPages_findCalls (hpage : 1 ≤ backend.limits.maxPageSize) :
    Exchange.emptyPages (findCalls backend database selector options s).dropLast = [] := by
  refine Exchange.emptyPages_eq_nil fun call hcall => ?_
  obtain ⟨k, hk, hget⟩ := List.mem_iff_getElem.mp hcall
  rw [List.length_dropLast] at hk
  rw [List.getElem_dropLast] at hget
  have hthere : (findCalls backend database selector options s)[k]? = some call :=
    List.getElem?_eq_some_iff.mpr ⟨by omega, hget⟩
  obtain ⟨page, houtcome, hrows⟩ := findCalls_followed backend database selector options s hthere (by omega)
  exact ⟨page, houtcome, hrows hpage⟩

end

/-- Under any limits a find makes no more calls than it wants rows, one if it wants none, and than it gets empty pages
before its last call. Where a page may have a row there are no such pages, so that the rows wanted bound the calls. Where
a page may have none, nothing bounds them: a backend without rows is asked again and again, and the rounds never come
to an end. -/
theorem find_calls_progress (limits : Limits) (database : String) (selector : Selector) (options : QueryOptions) :
    let target := options.pagination.target limits
    (∀ {σ : Type} (backend : Backend (StateM σ)) (s : σ), backend.limits = limits →
      let calls := findCalls backend database selector options s
      (∀ k call, calls[k]? = some call → k + 1 < calls.length →
        ∃ page, call.outcome = .ok page ∧ (1 ≤ limits.maxPageSize → page.docs ≠ [])) ∧
      calls.length ≤ max target 1 + (Exchange.emptyPages calls.dropLast).length ∧
      (1 ≤ limits.maxPageSize → calls.length ≤ max target 1)) ∧
    (limits.maxPageSize = 0 → options.pagination ≠ .single → 1 ≤ target →
      (findCalls (.barren limits) database selector options 0).length = Text.maxWord ∧
        ∀ run n, ¬RunsTo (.barren limits) (.ofQuery limits database selector options) .start 0 run n) := by
  intro target
  refine ⟨fun {σ} backend s hlimits => ?_, fun hzero hmany htarget => ?_⟩
  · subst hlimits
    intro calls
    have hlength : calls.length ≤ max target 1 + (Exchange.emptyPages calls.dropLast).length :=
      findCalls_length_le backend database selector options s
    refine ⟨fun k call => findCalls_followed backend database selector options s, hlength, fun hpage => ?_⟩
    have hempty : Exchange.emptyPages calls.dropLast = [] :=
      emptyPages_findCalls backend database selector options s hpage
    rw [hempty] at hlength
    exact hlength
  · have hstart : Position.start.collected < (Plan.ofQuery limits database selector options).target := by
      rw [Plan.ofQuery_target]
      exact htarget
    have hrounds : (Plan.ofQuery limits database selector options).single = false := Plan.single_ofQuery_iff.mpr hmany
    have hbound : (Plan.ofQuery limits database selector options).roundBound = Text.maxWord := if_pos hzero
    refine ⟨?_, fun run n => not_runsTo_barren hrounds hzero hstart nofun run⟩
    rw [(find_of_target_pos (.barren limits) database selector options 0 rfl htarget).2, ← hbound]
    exact rounds_barren hrounds hzero _ hstart nofun

end

/-- Three calls for two rows, the second of which brings none: the page of no rows that is asked for leads on. -/
theorem find_calls_progress_idle :
    let options : QueryOptions := { QueryOptions.default with limit := some 2 }
    let answers : List (Except FindError Page) :=
      [.ok ⟨[.nat 1], some "b1", none⟩, .ok ⟨[], some "b2", none⟩, .ok ⟨[.nat 2], some "b3", none⟩]
    let calls := findCalls (.scripted ⟨0, 10⟩) "people" .everything options answers
    let whole := findCalls (.scripted ⟨1, 10⟩) "people" .everything options answers
    calls.length = 3 ∧ calls.length ≤ max 2 1 + (Exchange.emptyPages calls.dropLast).length ∧
      (Exchange.emptyPages calls.dropLast).length = 1 ∧ whole.length ≤ max 2 1 ∧
      (findCalls (.barren ⟨0, 10⟩) "people" .everything options 0).length = Text.maxWord := by
  intro options answers calls whole
  obtain ⟨hcalls, hendless⟩ := find_calls_progress ⟨0, 10⟩ "people" .everything options
  obtain ⟨hwhole, -⟩ := find_calls_progress ⟨1, 10⟩ "people" .everything options
  have hthree : calls.length = 3 := by decide +kernel
  have hidle : (Exchange.emptyPages calls.dropLast).length = 1 := by decide +kernel
  obtain ⟨-, hlength, -⟩ := hcalls (.scripted ⟨0, 10⟩) answers rfl
  obtain ⟨-, -, hwanted⟩ := hwhole (.scripted ⟨1, 10⟩) answers rfl
  exact ⟨hthree, hlength, hidle, hwanted (by decide), (hendless rfl nofun (by decide)).1⟩

/-- One row is wanted, and three calls are made for it where a page may have no row. -/
theorem find_calls_beyond_target :
    let options : QueryOptions := { QueryOptions.default with limit := some 1 }
    let answers : List (Except FindError Page) := [.ok ⟨[], some "p1", none⟩, .ok ⟨[], some "p2", none⟩]
    options.pagination.target ⟨0, 10⟩ = 1 ∧
      (findCalls (.scripted ⟨0, 10⟩) "people" .everything options answers).length = 3 := ⟨rfl, rfl⟩

end PagedFind
