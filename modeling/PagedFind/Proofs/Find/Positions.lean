import PagedFind.Proofs.Find.Results
import PagedFind.Regex.Match

namespace PagedFind

def placeOf (place : String → Option Nat) : Option String → Option Nat
  | none => some 0
  | some bookmark => place bookmark

/-- A page of the rows from one place to another, which its bookmark names. -/
structure Page.Spans (rows : List Json) (place : String → Option Nat) (start stop : Nat) (page : Page) : Prop where
  order : start ≤ stop
  there : stop ≤ rows.length
  docs : page.docs = (rows.drop start).take (stop - start)
  bookmark : ∃ b, page.bookmark = some b ∧ b ≠ "" ∧ place b = some stop

section

variable [Regex.Engine] {σ : Type} {backend : Backend (StateM σ)} {rows : List Json} {place : String → Option Nat}

/-- Whatever its state, a backend answers a query from a place with the rows that follow it, as many as it likes, or
it fails. -/
def Backend.Positional (backend : Backend (StateM σ)) (database : String) (query : FindRequest)
    (rows : List Json) (place : String → Option Nat) : Prop :=
  ∀ (s : σ) (size : Nat) (bookmark : Option String) (start : Nat), placeOf place bookmark = some start →
    start ≤ rows.length → ∀ page,
      (backend.execute database (query.forRound size bookmark) s).1.outcome = .ok page →
        ∃ stop, page.Spans rows place start stop

omit [Regex.Engine] in
theorem drop_take_append_drop_take {α : Type} (rows : List α) {i j k : Nat} (hij : i ≤ j) (hjk : j ≤ k) :
    (rows.drop i).take (j - i) ++ (rows.drop j).take (k - j) = (rows.drop i).take (k - i) := by
  have hsplit : k - i = (j - i) + (k - j) := by omega
  have hdrop : i + (j - i) = j := by omega
  rw [hsplit, List.take_add, List.drop_drop, hdrop]

theorem RunsTo.spans {plan : Plan} {p : Position} {s s' : σ} {run : Run}
    (h : RunsTo backend plan p s run s')
    (hserves : backend.Positional plan.database plan.request rows place) {start : Nat}
    (hstart : placeOf place p.bookmark = some start) (hthere : start ≤ rows.length) :
    ∃ stop, start ≤ stop ∧ stop ≤ rows.length ∧
      Exchange.docs run.exchanges = (rows.drop start).take (stop - start) ∧
      placeOf place (run.result.bookmark <|> p.bookmark) = some stop := by
  induction h generalizing start with
  | failed call => exact ⟨start, Nat.le_refl _, hthere, by simp [Plan.failedRun], hstart⟩
  | @last p s s' page events call stop =>
    obtain ⟨stop, hspan⟩ := hserves s _ _ start hstart hthere page (by rw [Plan.roundRequest] at call; rw [call])
    obtain ⟨b, hb, hne, hplace⟩ := hspan.bookmark
    refine ⟨stop, hspan.order, hspan.there, ?_, ?_⟩
    · simp only [Plan.roundRun, Run.empty, Exchange.docs_ok, Exchange.docs_nil, List.append_nil, hspan.docs]
    · rw [Plan.roundRun, hb, ResultSet.after_bookmark_orElse _ hne]
      exact hplace
  | @more p s s' s'' page events rest call go next ih =>
    obtain ⟨middle, hspan⟩ := hserves s _ _ start hstart hthere page (by rw [Plan.roundRequest] at call; rw [call])
    obtain ⟨b, hb, hne, hplace⟩ := hspan.bookmark
    obtain ⟨stop, horder, hend, hdocs, hlast⟩ := ih (by rw [Plan.next, hb]; exact hplace) hspan.there
    refine ⟨stop, Nat.le_trans hspan.order horder, hend, ?_, ?_⟩
    · rw [Plan.roundRun, Exchange.docs_ok, hspan.docs, hdocs, drop_take_append_drop_take rows hspan.order horder]
    · rw [Plan.next, hb] at hlast
      rw [Plan.roundRun, hb, ResultSet.after_bookmark_orElse _ hne]
      exact hlast

/-- The same for a find: its pages hold the first rows, up to the place that its bookmark names. -/
theorem find_spans (backend : Backend (StateM σ)) (hpage : 1 ≤ backend.limits.maxPageSize) (database : String)
    (selector : Selector) (options : QueryOptions) (s : σ)
    (hserves : backend.Positional database (.base selector options) rows place) :
    let calls := findCalls backend database selector options s
    let result := (find backend database selector options s).1.result
    Exchange.docs calls = rows.take (Exchange.docs calls).length ∧
      placeOf place result.bookmark = some (Exchange.docs calls).length ∧
      result.rows = (Exchange.docs calls).take (options.pagination.target backend.limits) := by
  intro calls result
  rcases Nat.eq_zero_or_pos (options.pagination.target backend.limits) with hzero | hpos
  · obtain ⟨hfind, hcalls⟩ := find_of_target_eq_zero backend database selector options s hzero
    have hresult : result = .empty := by simp only [result, hfind, Run.empty]
    have hnone : calls = [] := hcalls
    rw [hresult, hnone, hzero]
    exact ⟨rfl, rfl, rfl⟩
  · obtain ⟨run, s', hrun, hfind, hcalls⟩ := find_runsTo backend database selector options s hpage rfl hpos
    have hresult : result = run.result := by simp only [result, hfind, Plan.framed]
    have hexchanges : calls = run.exchanges := hcalls
    have hrows := hrun.gathers.rows
    rw [Plan.remaining, Plan.ofQuery_target] at hrows
    have hstart : placeOf place Position.start.bookmark = some 0 := rfl
    obtain ⟨stop, -, hend, hdocs, hlast⟩ := hrun.spans hserves hstart (Nat.zero_le _)
    have hlength : (Exchange.docs run.exchanges).length = stop := by
      rw [hdocs, List.length_take, List.length_drop]
      omega
    rw [hresult, hexchanges, hlength]
    refine ⟨hdocs, ?_, hrows⟩
    have hbookmark : (run.result.bookmark <|> Position.start.bookmark) = run.result.bookmark := by
      cases run.result.bookmark <;> rfl
    rwa [hbookmark] at hlast

/-- The rows of a find are the first ones, and its bookmark names the place after the last row that its pages
brought. Where they brought no more than was wanted this is the place after its rows, from where a later page goes on;
otherwise the rows that were cut off lie between. -/
theorem find_positional (backend : Backend (StateM σ)) (hpage : 1 ≤ backend.limits.maxPageSize) (database : String)
    (selector : Selector) (options : QueryOptions) (rows : List Json) (place : String → Option Nat)
    (hserves : backend.Positional database (.base selector options) rows place) (s : σ) :
    let target := options.pagination.target backend.limits
    let result := (find backend database selector options s).1.result
    let collected := result.rows.length
    let brought := (Exchange.docs (findCalls backend database selector options s)).length
    result.rows = rows.take collected ∧ collected = min brought target ∧
      (result.bookmark = none → collected = 0) ∧
      (∀ b, result.bookmark = some b →
        place b = some brought ∧ (place b = some collected ↔ brought ≤ target)) ∧
      ∀ (t : σ) (size : Nat) (page : Page),
        (backend.execute database ((FindRequest.base selector options).forRound size result.bookmark) t).1.outcome
            = .ok page →
          ∃ stop, page.docs = (rows.drop brought).take (stop - brought) ∧
            (brought ≤ target → result.rows ++ page.docs = rows.take stop) := by
  intro target result collected brought
  obtain ⟨hdocs, hplace, hrows⟩ := find_spans backend hpage database selector options s hserves
  have hthere : brought ≤ rows.length := by
    have hlength := congrArg List.length hdocs
    rw [List.length_take] at hlength
    omega
  have htake : result.rows = rows.take (min target brought) := by
    rw [← List.take_take, ← hdocs]
    exact hrows
  have hcollected : collected = min brought target := by
    have hlength := congrArg List.length htake
    rw [List.length_take] at hlength
    omega
  refine ⟨?_, hcollected, ?_, ?_, ?_⟩
  · rw [hcollected, Nat.min_comm]
    exact htake
  · intro hnone
    rw [hnone] at hplace
    have hzero : 0 = brought := Option.some.inj hplace
    omega
  · intro b hb
    rw [hb] at hplace
    have hbrought : place b = some brought := hplace
    refine ⟨hbrought, ?_⟩
    rw [hbrought, Option.some.injEq]
    omega
  · intro t size page hok
    obtain ⟨stop, hspan⟩ := hserves t size result.bookmark brought hplace hthere page hok
    refine ⟨stop, hspan.docs, fun hfew => ?_⟩
    have hall : result.rows = (rows.drop 0).take (brought - 0) := by
      rw [htake, Nat.min_eq_right hfew]
      rfl
    rw [hall, hspan.docs, drop_take_append_drop_take rows (Nat.zero_le _) hspan.order]
    rfl

end

def tally (place : Nat) : String := String.ofList (List.replicate (place + 1) '|')

def tallyPlace (bookmark : String) : Option Nat := some (bookmark.length - 1)

theorem tallyPlace_tally (place : Nat) : tallyPlace (tally place) = some place := by
  simp [tallyPlace, tally]

theorem tally_ne_empty (place : Nat) : tally place ≠ "" := by
  intro h
  have hlength := congrArg String.length h
  simp [tally] at hlength

def Backend.tallied (limits : Limits) (rows : List Json) (size : Nat) : Backend (StateM Unit) where
  limits := limits
  execute _ request := fun s =>
    let start := (placeOf tallyPlace request.bookmark).getD 0
    let stop := min (start + size) rows.length
    (⟨.ok ⟨(rows.drop start).take (stop - start), some (tally stop), none⟩, []⟩, s)
  createIndex _ _ := fun s => (⟨.error (.transport "no indexes"), []⟩, s)

theorem Backend.positional_tallied (limits : Limits) (rows : List Json) (size : Nat) (database : String)
    (query : FindRequest) : (Backend.tallied limits rows size).Positional database query rows tallyPlace := by
  intro s _ bookmark start hstart hthere page hok
  cases hok
  have hplace : (placeOf tallyPlace bookmark).getD 0 = start := by rw [hstart]; rfl
  refine ⟨min (start + size) rows.length, by omega, Nat.min_le_right _ _, ?_, ?_⟩
  · simp only [FindRequest.forRound, hplace]
  · simp only [FindRequest.forRound, hplace]
    exact ⟨_, rfl, tally_ne_empty _, tallyPlace_tally _⟩

/-- Pages of two rows, where one was asked for, up to the four rows wanted: the next page goes on with the fifth. -/
theorem find_positional_four :
    let rows : List Json := [.nat 1, .nat 2, .nat 3, .nat 4, .nat 5]
    let backend := Backend.tallied ⟨1, 10⟩ rows 2
    let options : QueryOptions := { QueryOptions.default with limit := some 4 }
    let result := (find backend "people" .everything options ()).1.result
    1 ≤ backend.limits.maxPageSize ∧
      backend.Positional "people" (.base .everything options) rows tallyPlace ∧
      result.rows = rows.take 4 ∧ result.bookmark = some (tally 4) ∧ tallyPlace (tally 4) = some 4 ∧
      ∃ page stop, (backend.execute "people" ((FindRequest.base .everything options).forRound 1 result.bookmark)
        ()).1.outcome = .ok page ∧ page.docs = [.nat 5] ∧ result.rows ++ page.docs = rows.take stop := by
  intro rows backend options result
  have hserves := Backend.positional_tallied ⟨1, 10⟩ rows 2 "people" (.base .everything options)
  obtain ⟨hrows, -, -, -, hnext⟩ :=
    find_positional backend (by decide) "people" .everything options rows tallyPlace hserves ()
  have hfirst : result.bookmark = some (tally 4) := by decide +kernel
  have hlength : result.rows.length = 4 := by decide +kernel
  have hok : (backend.execute "people" ((FindRequest.base .everything options).forRound 1 result.bookmark)
      ()).1.outcome = .ok ⟨[.nat 5], some (tally 5), none⟩ := by
    rw [hfirst]
    rfl
  have hfew : (Exchange.docs (findCalls backend "people" .everything options ())).length ≤ 4 := by
    decide +kernel
  obtain ⟨stop, -, hgoes⟩ := hnext () 1 _ hok
  rw [hlength] at hrows
  exact ⟨by decide, hserves, hrows, hfirst, tallyPlace_tally 4, _, stop, hok, rfl, hgoes hfew⟩

/-- With three rows wanted, the bookmark names the place after the fourth, which is not among the rows. -/
theorem bookmark_skips_row :
    let rows : List Json := [.nat 1, .nat 2, .nat 3, .nat 4, .nat 5]
    let backend := Backend.tallied ⟨2, 10⟩ rows 2
    let options : QueryOptions := { QueryOptions.default with limit := some 3 }
    let result := (find backend "people" .everything options ()).1.result
    1 ≤ backend.limits.maxPageSize ∧
      backend.Positional "people" (.base .everything options) rows tallyPlace ∧
      result.rows = [.nat 1, .nat 2, .nat 3] ∧ result.bookmark = some (tally 4) ∧
      tallyPlace (tally 4) ≠ some result.rows.length :=
  ⟨by decide, Backend.positional_tallied ⟨2, 10⟩ _ 2 "people" _, rfl, rfl, by decide⟩

end PagedFind
