import PagedFind.Find.Rounds

namespace PagedFind

def Pagination.target (limits : Limits) : Pagination → Nat
  | .single => limits.maxPageSize
  | .upTo n => n
  | .exhaust => limits.fetchCeiling

theorem ResultSet.after_bookmark_orElse (kept : List Json) {b : String} (hb : b ≠ "")
    (before warning : Option String) (rest : ResultSet) :
    ((rest.after kept (some b) warning).bookmark <|> before) = (rest.bookmark <|> some b) := by
  have hfilter : (some b).filter (· ≠ "") = some b := Option.filter_some_pos (decide_eq_true hb)
  rw [ResultSet.after, hfilter]
  cases rest.bookmark <;> rfl

namespace Exchange

def page? (call : Exchange) : Option Page := call.outcome.toOption

def pages (calls : List Exchange) : List Page := calls.filterMap page?

def docs (calls : List Exchange) : List Json := (pages calls).flatMap (·.docs)

@[simp] theorem pages_nil : pages [] = [] := rfl

@[simp] theorem pages_ok (request : FindRequest) (page : Page) (calls : List Exchange) :
    pages (⟨request, .ok page⟩ :: calls) = page :: pages calls := rfl

@[simp] theorem pages_error (request : FindRequest) (e : FindError) (calls : List Exchange) :
    pages (⟨request, .error e⟩ :: calls) = pages calls := rfl

@[simp] theorem docs_nil : docs [] = [] := rfl

@[simp] theorem docs_ok (request : FindRequest) (page : Page) (calls : List Exchange) :
    docs (⟨request, .ok page⟩ :: calls) = page.docs ++ docs calls := rfl

@[simp] theorem docs_error (request : FindRequest) (e : FindError) (calls : List Exchange) :
    docs (⟨request, .error e⟩ :: calls) = docs calls := rfl

end Exchange

variable [Regex.Engine]

namespace Plan

variable {plan : Plan} {p : Position} {page : Page}

theorem ofQuery_target (limits : Limits) (database : String) (selector : Selector)
    (options : QueryOptions) :
    (Plan.ofQuery limits database selector options).target = options.pagination.target limits := by
  simp only [ofQuery]
  cases options.pagination <;> rfl

theorem isLast_eq_false_iff :
    plan.isLast p page = false ↔ plan.single = false ∧ plan.pageSize p ≤ page.docs.length ∧
      (∃ b, page.bookmark = some b ∧ b ≠ "") ∧ page.bookmark ≠ p.bookmark ∧
      p.collected + (plan.kept p page).length < plan.target := by
  cases hb : page.bookmark with
  | none => simp [isLast, exhausted, hb]
  | some b => simp [isLast, exhausted, hb, and_assoc]

/-- A page after which there is another round is kept whole. -/
theorem kept_of_not_last (h : plan.isLast p page = false) : plan.kept p page = page.docs := by
  obtain ⟨-, -, -, -, hlt⟩ := isLast_eq_false_iff.mp h
  unfold kept at hlt ⊢
  rw [List.length_take] at hlt
  unfold remaining at hlt ⊢
  exact List.take_of_length_le (by omega)

theorem next_collected_of_not_last (h : plan.isLast p page = false) :
    (plan.next p page).collected = p.collected + page.docs.length := by
  simp only [next, kept_of_not_last h]

theorem next_collected_lt (h : plan.isLast p page = false) :
    (plan.next p page).collected < plan.target := by
  obtain ⟨-, -, -, -, hlt⟩ := isLast_eq_false_iff.mp h
  exact hlt

theorem remaining_of_not_last (h : plan.isLast p page = false) :
    plan.remaining p = page.docs.length + plan.remaining (plan.next p page) := by
  have hlt := next_collected_lt h
  have hnext := next_collected_of_not_last h
  unfold remaining
  omega

theorem remaining_pos (hp : p.collected < plan.target) : 0 < plan.remaining p := Nat.sub_pos_of_lt hp

theorem pageSize_pos (hpage : 0 < plan.pageLimit) (hp : p.collected < plan.target) :
    0 < plan.pageSize p := by
  have := remaining_pos hp
  unfold pageSize
  omega

/-- Every round but the last brings rows. -/
theorem collected_lt_next (hpage : 0 < plan.pageLimit) (hp : p.collected < plan.target)
    (h : plan.isLast p page = false) : p.collected < (plan.next p page).collected := by
  obtain ⟨-, hfull, -⟩ := isLast_eq_false_iff.mp h
  have hsize := pageSize_pos hpage hp
  rw [next_collected_of_not_last h]
  omega

def roundRun (plan : Plan) (p : Position) (page : Page) (events : List Event) (rest : Run) : Run :=
  ⟨⟨plan.roundRequest p, .ok page⟩ :: rest.exchanges,
    rest.result.after (plan.kept p page) page.bookmark page.warning,
    events ++ plan.pageEvents p page ++ rest.events⟩

def failedRun (plan : Plan) (p : Position) (e : FindError) (events : List Event) : Run :=
  ⟨[⟨plan.roundRequest p, .error e⟩], .failed e, events ++ [plan.failureEvent p e]⟩

def framed (plan : Plan) (run : Run) : Run :=
  { run with events := plan.startEvent :: run.events ++ [plan.finishEvent run] }

end Plan

section

variable {σ : Type}

/-- The runs from a position and a state of the backend, with the state that they end in. Nothing is asked of the
backend: a state may hold all that it is going to answer. -/
inductive RunsTo (backend : Backend (StateM σ)) (plan : Plan) : Position → σ → Run → σ → Prop where
  | failed {p : Position} {s s' : σ} {e : FindError} {events : List Event}
      (call : backend.execute plan.database (plan.roundRequest p) s = (⟨.error e, events⟩, s')) :
      RunsTo backend plan p s (plan.failedRun p e events) s'
  | last {p : Position} {s s' : σ} {page : Page} {events : List Event}
      (call : backend.execute plan.database (plan.roundRequest p) s = (⟨.ok page, events⟩, s'))
      (stop : plan.isLast p page = true) :
      RunsTo backend plan p s (plan.roundRun p page events .empty) s'
  | more {p : Position} {s s' s'' : σ} {page : Page} {events : List Event} {rest : Run}
      (call : backend.execute plan.database (plan.roundRequest p) s = (⟨.ok page, events⟩, s'))
      (go : plan.isLast p page = false) (next : RunsTo backend plan (plan.next p page) s' rest s'') :
      RunsTo backend plan p s (plan.roundRun p page events rest) s''

variable {backend : Backend (StateM σ)} {plan : Plan} {p : Position} {s s' : σ} {events : List Event}

theorem rounds_failed {e : FindError} (fuel : Nat)
    (call : backend.execute plan.database (plan.roundRequest p) s = (⟨.error e, events⟩, s')) :
    rounds backend plan (fuel + 1) p s = (plan.failedRun p e events, s') := by
  simp only [rounds, bind, StateT.bind, call]
  rfl

theorem rounds_last {page : Page} (fuel : Nat)
    (call : backend.execute plan.database (plan.roundRequest p) s = (⟨.ok page, events⟩, s'))
    (stop : plan.isLast p page = true) :
    rounds backend plan (fuel + 1) p s = (plan.roundRun p page events .empty, s') := by
  simp only [rounds, bind, StateT.bind, call, stop, if_true]
  rfl

theorem rounds_more {page : Page} (fuel : Nat)
    (call : backend.execute plan.database (plan.roundRequest p) s = (⟨.ok page, events⟩, s'))
    (go : plan.isLast p page = false) :
    rounds backend plan (fuel + 1) p s =
      (plan.roundRun p page events (rounds backend plan fuel (plan.next p page) s').1,
        (rounds backend plan fuel (plan.next p page) s').2) := by
  simp only [rounds, bind, StateT.bind, call, go, Bool.false_eq_true, if_false]
  rfl

/-- What holds of rounds: of none that are left, and of a round that fails, of a last one and of one before others. -/
theorem rounds_induction (backend : Backend (StateM σ)) (plan : Plan)
    {motive : Nat → Position → σ → Run → σ → Prop}
    (zero : ∀ p s, motive 0 p s .empty s)
    (failed : ∀ fuel p s e events s',
      backend.execute plan.database (plan.roundRequest p) s = (⟨.error e, events⟩, s') →
        motive (fuel + 1) p s (plan.failedRun p e events) s')
    (last : ∀ fuel p s page events s',
      backend.execute plan.database (plan.roundRequest p) s = (⟨.ok page, events⟩, s') →
        plan.isLast p page = true → motive (fuel + 1) p s (plan.roundRun p page events .empty) s')
    (more : ∀ fuel p s page events s' rest s'',
      backend.execute plan.database (plan.roundRequest p) s = (⟨.ok page, events⟩, s') →
        plan.isLast p page = false → motive fuel (plan.next p page) s' rest s'' →
          motive (fuel + 1) p s (plan.roundRun p page events rest) s'')
    (fuel : Nat) (p : Position) (s : σ) :
    motive fuel p s (rounds backend plan fuel p s).1 (rounds backend plan fuel p s).2 := by
  induction fuel generalizing p s with
  | zero => exact zero p s
  | succ fuel ih =>
    rcases call : backend.execute plan.database (plan.roundRequest p) s with ⟨⟨outcome, events⟩, s'⟩
    cases outcome with
    | error e =>
      rw [rounds_failed fuel call]
      exact failed fuel p s e events s' call
    | ok page =>
      cases h : plan.isLast p page with
      | true =>
        rw [rounds_last fuel call h]
        exact last fuel p s page events s' call h
      | false =>
        rw [rounds_more fuel call h]
        exact more fuel p s page events s' _ _ call h (ih (plan.next p page) s')

/-- The number of rounds that a find allows for is never what ends it. -/
theorem rounds_runsTo (hpage : 0 < plan.pageLimit) (fuel : Nat) (hp : p.collected < plan.target)
    (henough : plan.target ≤ p.collected + fuel) :
    RunsTo backend plan p s (rounds backend plan fuel p s).1 (rounds backend plan fuel p s).2 := by
  refine rounds_induction backend plan
    (motive := fun fuel p s run s' => p.collected < plan.target → plan.target ≤ p.collected + fuel →
      RunsTo backend plan p s run s') ?zero ?failed ?last ?more fuel p s hp henough
  case zero =>
    intro p s hp henough
    omega
  case failed =>
    intro fuel p s e events s' call _ _
    exact .failed call
  case last =>
    intro fuel p s page events s' call stop _ _
    exact .last call stop
  case more =>
    intro fuel p s page events s' rest s'' call go ih hp henough
    have hgrow := Plan.collected_lt_next hpage hp go
    exact .more call go (ih (Plan.next_collected_lt go) (by omega))

/-- The backend that also keeps each call and what came of it. -/
def Backend.recorded (backend : Backend (StateM σ)) : Backend (StateM (σ × List Exchange)) where
  limits := backend.limits
  execute database request := fun (s, calls) =>
    let (reply, s') := backend.execute database request s
    (reply, s', calls ++ [⟨request, reply.outcome⟩])
  createIndex database spec := fun (s, calls) =>
    let (reply, s') := backend.createIndex database spec s
    (reply, s', calls)

/-- The backend that answers its calls one by one from a list, and after them with pages of nothing. -/
def Backend.scripted (limits : Limits) : Backend (StateM (List (Except FindError Page))) where
  limits := limits
  execute _ _ := fun answers => (⟨answers.headD (.ok .empty), []⟩, answers.tail)
  createIndex _ _ := fun answers => (⟨.error (.transport "not scripted"), []⟩, answers)

theorem rounds_recorded (fuel : Nat) (calls : List Exchange) :
    rounds backend.recorded plan fuel p (s, calls) =
      ((rounds backend plan fuel p s).1, (rounds backend plan fuel p s).2,
        calls ++ (rounds backend plan fuel p s).1.exchanges) := by
  have recorded {p : Position} {s s' : σ} {outcome : Except FindError Page} {events : List Event}
      (calls : List Exchange) (call : backend.execute plan.database (plan.roundRequest p) s
        = (⟨outcome, events⟩, s')) :
      backend.recorded.execute plan.database (plan.roundRequest p) (s, calls)
        = (⟨outcome, events⟩, s', calls ++ [⟨plan.roundRequest p, outcome⟩]) := by
    simp only [Backend.recorded, call]
  refine rounds_induction backend plan
    (motive := fun fuel p s run s' => ∀ calls,
      rounds backend.recorded plan fuel p (s, calls) = (run, s', calls ++ run.exchanges))
    ?zero ?failed ?last ?more fuel p s calls
  case zero =>
    intro p s calls
    show (Run.empty, s, calls) = (Run.empty, s, calls ++ [])
    rw [List.append_nil]
  case failed =>
    intro fuel p s e events s' call calls
    rw [rounds_failed fuel (recorded calls call)]
    rfl
  case last =>
    intro fuel p s page events s' call stop calls
    rw [rounds_last fuel (recorded calls call) stop]
    rfl
  case more =>
    intro fuel p s page events s' rest s'' call go ih calls
    rw [rounds_more fuel (recorded calls call) go, ih]
    simp [Plan.roundRun]

def findCalls (backend : Backend (StateM σ)) (database : String) (selector : Selector)
    (options : QueryOptions) (s : σ) : List Exchange :=
  (find backend.recorded database selector options (s, [])).2.2

end

section

variable {σ : Type} (backend : Backend (StateM σ)) (database : String) (selector : Selector)
  (options : QueryOptions) (s : σ) {plan : Plan}

theorem find_of_target_eq_zero (htarget : options.pagination.target backend.limits = 0) :
    find backend database selector options s = (.empty, s) ∧
      findCalls backend database selector options s = [] := by
  rw [← Plan.ofQuery_target backend.limits database selector options] at htarget
  have hrec : (Plan.ofQuery backend.recorded.limits database selector options).target = 0 := htarget
  constructor
  · simp only [find, htarget, if_true]
    rfl
  · simp only [findCalls, find, hrec, if_true]
    rfl

theorem find_of_target_pos (hplan : Plan.ofQuery backend.limits database selector options = plan)
    (htarget : 0 < options.pagination.target backend.limits) :
    find backend database selector options s =
        (plan.framed (rounds backend plan plan.roundBound .start s).1,
          (rounds backend plan plan.roundBound .start s).2) ∧
      findCalls backend database selector options s =
        (rounds backend plan plan.roundBound .start s).1.exchanges := by
  rw [← Plan.ofQuery_target backend.limits database selector options, hplan] at htarget
  have hrec : Plan.ofQuery backend.recorded.limits database selector options = plan := hplan
  have hne : plan.target ≠ 0 := by omega
  constructor
  · simp only [find, hplan, if_neg hne]
    rfl
  · simp only [findCalls, find, hrec, if_neg hne, bind, StateT.bind, rounds_recorded, List.nil_append]
    rfl

theorem find_runsTo (hpage : 0 < backend.limits.maxPageSize)
    (hplan : Plan.ofQuery backend.limits database selector options = plan)
    (htarget : 0 < options.pagination.target backend.limits) :
    ∃ run s', RunsTo backend plan .start s run s' ∧
      find backend database selector options s = (plan.framed run, s') ∧
      findCalls backend database selector options s = run.exchanges := by
  have hpos := htarget
  rw [← Plan.ofQuery_target backend.limits database selector options, hplan] at hpos
  have hlimit : 0 < plan.pageLimit := by rw [← hplan]; exact hpage
  have hbound : plan.roundBound = plan.target := by simp [Plan.roundBound, Nat.ne_of_gt hlimit]
  obtain ⟨hfind, hcalls⟩ := find_of_target_pos backend database selector options s hplan htarget
  exact ⟨_, _, rounds_runsTo hlimit _ hpos (by rw [hbound]; simp [Position.start]), hfind, hcalls⟩

end

end PagedFind
