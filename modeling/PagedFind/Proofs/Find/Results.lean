import PagedFind.Proofs.Find.Runs
import PagedFind.Regex.Match

namespace PagedFind

/-- A result holds what calls brought, up to a number of rows. -/
structure ResultSet.Gathers (wanted : Nat) (calls : List Exchange) (r : ResultSet) : Prop where
  rows : r.rows = (Exchange.docs calls).take wanted
  error : ∀ e, r.error = some e ↔ ∃ call, calls.getLast? = some call ∧ call.outcome = .error e
  kept : ∀ e, r.error = some e → r.rows = Exchange.docs calls.dropLast
  rounds : r.rounds = (Exchange.pages calls).length
  warnings : r.warnings = (Exchange.pages calls).filterMap (·.warning)
  bookmark : r.bookmark = (((Exchange.pages calls).filterMap (·.bookmark)).filter (· ≠ "")).getLast?

theorem getLast?_bookmarks_cons (page : Page) (pages : List Page) :
    (((page :: pages).filterMap (·.bookmark)).filter (· ≠ "")).getLast?
      = ((pages.filterMap (·.bookmark)).filter (· ≠ "")).getLast?.or
        (page.bookmark.filter (· ≠ "")) := by
  cases hb : page.bookmark with
  | none => simp [hb]
  | some b =>
    by_cases he : b = ""
    · simp [hb, he, Option.filter]
    · rw [List.filterMap_cons_some hb, List.filter_cons_of_pos (by simpa using he),
        List.getLast?_cons, Option.filter_some_pos (by simpa using he)]
      cases (List.filter (· ≠ "") (pages.filterMap (·.bookmark))).getLast? <;> rfl

theorem ResultSet.gathers_failed (wanted : Nat) (request : FindRequest) (e : FindError) :
    Gathers wanted [⟨request, .error e⟩] (.failed e) where
  rows := by simp [failed, empty]
  error := by simp [failed]
  kept := by simp [failed, empty]
  rounds := rfl
  warnings := rfl
  bookmark := rfl

theorem ResultSet.gathers_last (wanted : Nat) (request : FindRequest) (page : Page) :
    Gathers wanted [⟨request, .ok page⟩]
      (ResultSet.empty.after (page.docs.take wanted) page.bookmark page.warning) where
  rows := by simp [after, empty]
  error := by simp [after, empty]
  kept := by simp [after, empty]
  rounds := rfl
  warnings := by cases h : page.warning <;> simp [after, empty, h]
  bookmark := by
    rw [Exchange.pages_ok, getLast?_bookmarks_cons]
    rfl

theorem ResultSet.Gathers.cons {wanted : Nat} {calls : List Exchange} {rest : ResultSet}
    (h : Gathers wanted calls rest) (hne : calls ≠ []) (request : FindRequest) (page : Page) :
    Gathers (page.docs.length + wanted) (⟨request, .ok page⟩ :: calls)
      (rest.after page.docs page.bookmark page.warning) where
  rows := by
    rw [Exchange.docs_ok, List.take_length_add_append, ← h.rows]
    rfl
  error e := by
    rw [List.getLast?_cons_of_ne_nil hne]
    exact h.error e
  kept e he := by
    rw [List.dropLast_cons_of_ne_nil hne, Exchange.docs_ok, ← h.kept e he]
    rfl
  rounds := by simp [after, h.rounds]
  warnings := by cases hw : page.warning <;> simp [after, h.warnings, hw]
  bookmark := by
    rw [Exchange.pages_ok, getLast?_bookmarks_cons, ← h.bookmark]
    simp only [after]
    cases rest.bookmark <;> rfl

section

variable [Regex.Engine] {σ : Type} {backend : Backend (StateM σ)} {plan : Plan} {p : Position} {s s' : σ} {run : Run}

theorem RunsTo.exchanges_ne_nil (h : RunsTo backend plan p s run s') : run.exchanges ≠ [] := by
  cases h <;> simp [Plan.failedRun, Plan.roundRun]

theorem RunsTo.gathers (h : RunsTo backend plan p s run s') :
    run.result.Gathers (plan.remaining p) run.exchanges := by
  induction h with
  | failed call => exact ResultSet.gathers_failed _ _ _
  | last call stop => exact ResultSet.gathers_last _ _ _
  | @more p s s' s'' page events rest call go next ih =>
    have hcons := ih.cons next.exchanges_ne_nil (plan.roundRequest p) page
    rw [← Plan.remaining_of_not_last go, ← Plan.kept_of_not_last go] at hcons
    exact hcons

/-- The result of a find holds the rows of all pages up to the target, the error of a last call that failed,
and what the pages said besides. -/
theorem find_gathers (backend : Backend (StateM σ)) (hpage : 1 ≤ backend.limits.maxPageSize)
    (database : String) (selector : Selector) (options : QueryOptions) (s : σ) :
    (find backend database selector options s).1.result.Gathers
      (options.pagination.target backend.limits) (findCalls backend database selector options s) := by
  rcases Nat.eq_zero_or_pos (options.pagination.target backend.limits) with hzero | hpos
  · obtain ⟨hfind, hcalls⟩ := find_of_target_eq_zero backend database selector options s hzero
    rw [hfind, hcalls, hzero]
    exact ⟨rfl, by simp [Run.empty, ResultSet.empty], by simp [Run.empty, ResultSet.empty], rfl, rfl, rfl⟩
  · obtain ⟨run, s', hrun, hfind, hcalls⟩ :=
      find_runsTo backend database selector options s hpage rfl hpos
    rw [hfind, hcalls]
    have hgathers := hrun.gathers
    rw [Plan.remaining, Plan.ofQuery_target] at hgathers
    exact hgathers

end

/-- A second page of three rows, where two were asked for, before a call that fails. -/
theorem find_gathers_overshoot :
    let answers : List (Except FindError Page) :=
      [.ok ⟨[.nat 1, .nat 2], some "a", none⟩, .ok ⟨[.nat 3, .nat 4, .nat 5], some "b", some "slow"⟩,
        .error (.backend 500 "down" "")]
    let limits : Limits := ⟨2, 10⟩
    let options : QueryOptions := { QueryOptions.default with limit := some 6 }
    let run := (find (.scripted limits) "people" .everything options answers).1
    1 ≤ limits.maxPageSize ∧
      run.result.Gathers 6 (findCalls (.scripted limits) "people" .everything options answers) ∧
      run.result.rows = [.nat 1, .nat 2, .nat 3, .nat 4, .nat 5] ∧ run.result.bookmark = some "b" :=
  ⟨by decide, find_gathers (.scripted ⟨2, 10⟩) (by decide) "people" .everything
    { QueryOptions.default with limit := some 6 } _, rfl, rfl⟩

end PagedFind
