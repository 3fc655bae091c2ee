import PagedFind.Proofs.Find.Requests
import PagedFind.Regex.Match

namespace PagedFind

def warningEvent (database : String) (round : Nat) (warning : String) : Event :=
  ⟨.warning, "find round " ++ Nat.repr round ++ " in '" ++ database ++ "'" ++ ": " ++ warning⟩

def overshootEvent (round returned size : Nat) : Event :=
  ⟨.warning, "find round " ++ Nat.repr round ++ " returned " ++ Nat.repr returned ++ " rows for a page of "
    ++ Nat.repr size ++ ", truncating"⟩

theorem warningEvent_ne_overshootEvent (database warning : String) (round returned size : Nat) :
    warningEvent database round warning ≠ overshootEvent round returned size := by
  intro h
  have hmessage := congrArg Event.message h
  simp only [warningEvent, overshootEvent, String.append_assoc, String.append_right_inj] at hmessage
  -- The two go on differently after the number of the round.
  have hsecond := congrArg (fun text => text.toList[1]?) hmessage
  simp [String.toList_append] at hsecond

def warnings (events : List Event) : List Event := events.filter (·.level = .warning)

theorem warnings_append (events more : List Event) : warnings (events ++ more) = warnings events ++ warnings more :=
  List.filter_append events more

theorem warnings_flatten_zipWith (before after : List (List Event)) :
    warnings (List.zipWith (· ++ ·) before after).flatten
      = (List.zipWith (· ++ ·) (before.map warnings) (after.map warnings)).flatten := by
  rw [List.zipWith_map]
  simp only [← warnings_append]
  rw [← List.map_zipWith]
  exact List.filter_flatten

/-- What is said in warning of a call that is made in a round where some rows are wanted. -/
def Exchange.reports (call : Exchange) (database : String) (round wanted pageLimit : Nat) : List Event :=
  match call.outcome with
  | .ok page => page.warning.toList.map (warningEvent database round) ++
      if wanted < page.docs.length then [overshootEvent round page.docs.length (min wanted pageLimit)] else []
  | .error _ => []

theorem Exchange.overshootEvent_mem_reports_iff {call : Exchange} {page : Page} (hpage : call.outcome = .ok page)
    (database : String) (round wanted pageLimit : Nat) :
    overshootEvent round page.docs.length (min wanted pageLimit) ∈ call.reports database round wanted pageLimit ↔
      wanted < page.docs.length := by
  have hown : overshootEvent round page.docs.length (min wanted pageLimit)
      ∉ page.warning.toList.map (warningEvent database round) := by
    intro hmem
    obtain ⟨w, -, heq⟩ := List.mem_map.mp hmem
    exact warningEvent_ne_overshootEvent _ _ _ _ _ heq
  rw [reports, hpage]
  by_cases hmore : wanted < page.docs.length
  · simp [hmore]
  · simp [hmore, hown]

namespace Plan

variable [Regex.Engine]

def callEvents (plan : Plan) (p : Position) (call : Exchange) : List Event :=
  match call.outcome with
  | .ok page => plan.pageEvents p page
  | .error e => [plan.failureEvent p e]

/-- What a find logs itself of each of its calls from a position on. -/
def roundEvents (plan : Plan) : Position → List Exchange → List (List Event)
  | _, [] => []
  | p, call :: calls => plan.callEvents p call :: plan.roundEvents (plan.positionAfter p [call]) calls

variable {plan : Plan} {p : Position} {calls : List Exchange}

theorem warnings_callEvents (plan : Plan) (p : Position) (call : Exchange) :
    warnings (plan.callEvents p call) = call.reports plan.database p.round (plan.remaining p) plan.pageLimit := by
  have hwarning (w : String) :
      (⟨.warning, roundName p ++ plan.place ++ ": " ++ w⟩ : Event) = warningEvent plan.database p.round w := by
    simp only [warningEvent, roundName, place, String.append_assoc]
  unfold callEvents Exchange.reports
  cases call.outcome with
  | error e => rfl
  | ok page =>
    simp only [pageEvents]
    cases page.warning with
    | none => split <;> rfl
    | some w =>
      rw [Option.toList_some, List.map_singleton, List.map_singleton, hwarning]
      split <;> rfl

/-- What is logged of a call is settled by the position that the calls before it led to. -/
theorem getElem?_roundEvents {k : Nat} {call : Exchange} (hk : calls[k]? = some call) :
    (plan.roundEvents p calls)[k]? = some (plan.callEvents (plan.positionAfter p (calls.take k)) call) := by
  induction calls generalizing p k with
  | nil => cases hk
  | cons first calls ih =>
    cases k with
    | zero => cases hk; rfl
    | succ k =>
      obtain ⟨request, outcome⟩ := first
      cases outcome with
      | ok page => exact ih hk
      | error e => exact ih hk

theorem length_roundEvents (plan : Plan) (p : Position) (calls : List Exchange) :
    (plan.roundEvents p calls).length = calls.length := by
  induction calls generalizing p with
  | nil => rfl
  | cons call calls ih => rw [roundEvents, List.length_cons, List.length_cons, ih]

/-- What a find warns of itself is told by its calls alone. -/
theorem Calls.warnings_roundEvents (h : plan.Calls p calls) (hp : calls ≠ [] → p.collected < plan.target) :
    (plan.roundEvents p calls).map warnings = calls.mapIdx fun k call =>
      call.reports plan.database (p.round + k)
        (plan.target - (p.collected + (Exchange.docs (calls.take k)).length)) plan.pageLimit := by
  apply List.ext_getElem?
  intro k
  rw [List.getElem?_map, List.getElem?_mapIdx]
  cases hk : calls[k]? with
  | none =>
    rw [List.getElem?_eq_none (by rw [length_roundEvents]; exact List.getElem?_eq_none_iff.mp hk)]
    rfl
  | some call =>
    obtain ⟨hcollected, -⟩ := h.collected_before (hp (List.ne_nil_of_mem (List.mem_of_getElem? hk))) hk
    rw [getElem?_roundEvents hk, Option.map_some, Option.map_some, warnings_callEvents, h.round_before hk, remaining,
      hcollected]

/-- Rows beyond those that are wanted come with the last call alone. -/
theorem Calls.last_of_overshoot (h : plan.Calls p calls) (hp : p.collected < plan.target) {k : Nat} {call : Exchange}
    {page : Page} (hk : calls[k]? = some call) (hpage : call.outcome = .ok page)
    (hmore : plan.target - (p.collected + (Exchange.docs (calls.take k)).length) < page.docs.length) :
    k + 1 = calls.length := by
  obtain ⟨hcollected, -⟩ := h.collected_before hp hk
  have hlength := (List.getElem?_eq_some_iff.mp hk).1
  rcases Nat.lt_or_ge (k + 1) calls.length with hnext | hend
  · obtain ⟨page', houtcome, go⟩ := h.followed hk hnext
    rw [hpage] at houtcome
    cases houtcome
    -- A page that is not the last is kept whole, so it has no such rows.
    have hremaining := remaining_of_not_last go
    rw [remaining, hcollected] at hremaining
    omega
  · omega

end Plan

section

variable [Regex.Engine] {σ : Type}

def Backend.replies (backend : Backend (StateM σ)) (database : String) : σ → List Exchange → List (List Event)
  | _, [] => []
  | s, call :: calls =>
    (backend.execute database call.request s).1.events
      :: backend.replies database (backend.execute database call.request s).2 calls

/-- In each round the events of the backend come first, and then those of the find. -/
theorem rounds_events (backend : Backend (StateM σ)) (plan : Plan) (fuel : Nat) (p : Position) (s : σ) :
    (rounds backend plan fuel p s).1.events =
      (List.zipWith (· ++ ·) (backend.replies plan.database s (rounds backend plan fuel p s).1.exchanges)
        (plan.roundEvents p (rounds backend plan fuel p s).1.exchanges)).flatten := by
  have hreplies {p : Position} {s s' : σ} {reply : Reply Page} {outcome : Except FindError Page}
      (call : backend.execute plan.database (plan.roundRequest p) s = (reply, s')) (calls : List Exchange) :
      backend.replies plan.database s (⟨plan.roundRequest p, outcome⟩ :: calls)
        = reply.events :: backend.replies plan.database s' calls := by
    rw [Backend.replies, call]
  refine rounds_induction backend plan
    (motive := fun _ p s run _ => run.events =
      (List.zipWith (· ++ ·) (backend.replies plan.database s run.exchanges) (plan.roundEvents p run.exchanges)).flatten)
    ?zero ?failed ?last ?more fuel p s
  case zero => exact fun p s => rfl
  case failed =>
    intro fuel p s e events s' call
    rw [Plan.failedRun, hreplies call]
    exact (List.append_nil _).symm
  case last =>
    intro fuel p s page events s' call _
    rw [Plan.roundRun, hreplies call]
    rfl
  case more =>
    intro fuel p s page events s' rest s'' call _ ih
    rw [Plan.roundRun, hreplies call, ih]
    rfl

section

variable (backend : Backend (StateM σ)) (database : String) (selector : Selector) (options : QueryOptions) (s : σ)

theorem warnings_find :
    warnings (find backend database selector options s).1.events =
      (List.zipWith (· ++ ·)
        ((backend.replies database s (findCalls backend database selector options s)).map warnings)
        (((Plan.ofQuery backend.limits database selector options).roundEvents .start
          (findCalls backend database selector options s)).map warnings)).flatten := by
  rcases Nat.eq_zero_or_pos (options.pagination.target backend.limits) with hzero | hpos
  · obtain ⟨hfind, hcalls⟩ := find_of_target_eq_zero backend database selector options s hzero
    rw [hfind, hcalls]
    rfl
  · obtain ⟨hfind, hcalls⟩ := find_of_target_pos backend database selector options s rfl hpos
    have hevents := rounds_events backend (Plan.ofQuery backend.limits database selector options)
      (Plan.ofQuery backend.limits database selector options).roundBound .start s
    rw [← hcalls] at hevents
    have hframe : warnings (find backend database selector options s).1.events = warnings
        (rounds backend (Plan.ofQuery backend.limits database selector options)
          (Plan.ofQuery backend.limits database selector options).roundBound .start s).1.events := by
      rw [hfind, Plan.framed, warnings_append]
      exact List.append_nil _
    rw [hframe, hevents]
    exact warnings_flatten_zipWith _ _

end

/-- What the log of a find warns of, under any limits: in each round of what its backend warns of, and then of what the
call is to be reported for. A page with rows beyond those that are wanted, which is the last one, is reported with the
size that it was asked for, and no other page is: neither one that keeps to its size nor one that is beyond its size and
within what is wanted. -/
theorem find_reports (backend : Backend (StateM σ)) (database : String) (selector : Selector) (options : QueryOptions)
    (s : σ) :
    let target := options.pagination.target backend.limits
    let pageLimit := backend.limits.maxPageSize
    let calls := findCalls backend database selector options s
    let wanted (k : Nat) : Nat := target - (Exchange.docs (calls.take k)).length
    let reports := calls.mapIdx fun k call => call.reports database (k + 1) (wanted k) pageLimit
    warnings (find backend database selector options s).1.events =
        (List.zipWith (· ++ ·) ((backend.replies database s calls).map warnings) reports).flatten ∧
      ∀ k call page, calls[k]? = some call → call.outcome = .ok page →
        let size := min (wanted k) pageLimit
        let returned := page.docs.length
        call.request.limit = some size ∧
          (overshootEvent (k + 1) returned size ∈ call.reports database (k + 1) (wanted k) pageLimit ↔
            wanted k < returned) ∧
          (wanted k < returned → size < returned ∧ k + 1 = calls.length) := by
  intro target pageLimit calls wanted reports
  have hmade : (Plan.ofQuery backend.limits database selector options).Calls .start calls :=
    findCalls_calls backend database selector options s
  have hstart := start_lt_target_of_findCalls backend database selector options s
  have hwanted (k : Nat) : (Plan.ofQuery backend.limits database selector options).target
      - (Position.start.collected + (Exchange.docs (calls.take k)).length) = wanted k := by
    rw [Plan.ofQuery_target, Position.start, Nat.zero_add]
  have hround (k : Nat) : Position.start.round + k = k + 1 := Nat.add_comm 1 k
  refine ⟨?_, fun k call page hk hpage => ?_⟩
  · have hreports := hmade.warnings_roundEvents hstart
    simp only [hround, hwanted] at hreports
    rw [warnings_find]
    exact congrArg (fun own => (List.zipWith (· ++ ·) _ own).flatten) hreports
  · intro size returned
    have hsome := hstart (List.ne_nil_of_mem (List.mem_of_getElem? hk))
    have hlimit := hmade.limit_eq hsome hk
    have hlast := hmade.last_of_overshoot hsome hk hpage
    rw [hwanted] at hlimit hlast
    exact ⟨hlimit, Exchange.overshootEvent_mem_reports_iff hpage _ _ _ _,
      fun hmore => ⟨Nat.lt_of_le_of_lt (Nat.min_le_left _ _) hmore, hlast hmore⟩⟩

end

/-- Four rows are wanted, two a page. The first page has three rows, and nothing is said of it; the second is asked for
one row and has two, and that is reported after the warning it carries. -/
theorem find_reports_second_page :
    let options : QueryOptions := { QueryOptions.default with limit := some 4 }
    let answers : List (Except FindError Page) :=
      [.ok ⟨[.nat 1, .nat 2, .nat 3], some "b1", none⟩, .ok ⟨[.nat 4, .nat 5], some "b2", some "slow"⟩]
    let request (size : Nat) (bookmark : Option String) := (FindRequest.base .everything options).forRound size bookmark
    let first : Exchange := ⟨request 2 none, .ok ⟨[.nat 1, .nat 2, .nat 3], some "b1", none⟩⟩
    let second : Exchange := ⟨request 1 (some "b1"), .ok ⟨[.nat 4, .nat 5], some "b2", some "slow"⟩⟩
    let calls := findCalls (.scripted ⟨2, 10⟩) "people" .everything options answers
    calls = [first, second] ∧
      warnings (find (.scripted ⟨2, 10⟩) "people" .everything options answers).1.events =
        [warningEvent "people" 2 "slow", overshootEvent 2 2 1] ∧
      overshootEvent 1 3 2 ∉ first.reports "people" 1 4 2 ∧
      overshootEvent 2 2 1 ∈ second.reports "people" 2 1 2 ∧ 1 + 1 = calls.length := by
  intro options answers request first second calls
  have hcalls : findCalls (.scripted ⟨2, 10⟩) "people" .everything options answers = [first, second] := rfl
  obtain ⟨hlog, hround⟩ := find_reports (.scripted ⟨2, 10⟩) "people" .everything options answers
  rw [hcalls] at hlog hround
  obtain ⟨-, hsilent, -⟩ := hround 0 first _ rfl rfl
  obtain ⟨-, hreported, hlast⟩ := hround 1 second _ rfl rfl
  exact ⟨hcalls, hlog, mt hsilent.mp (by decide), hreported.mpr (by decide), (hlast (by decide)).2⟩

/-- A page of two rows is asked for and one of three comes, and the log warns of nothing. -/
theorem overshoot_unreported :
    let options : QueryOptions := { QueryOptions.default with limit := some 5 }
    let answers : List (Except FindError Page) :=
      [.ok ⟨[.nat 1, .nat 2, .nat 3], some "p1", none⟩, .ok ⟨[.nat 4, .nat 5], some "p2", none⟩]
    (∃ call page, (findCalls (.scripted ⟨2, 10⟩) "people" .everything options answers)[0]? = some call ∧
        call.outcome = .ok page ∧ call.request.limit = some 2 ∧ page.docs.length = 3) ∧
      warnings (find (.scripted ⟨2, 10⟩) "people" .everything options answers).1.events = [] :=
  ⟨⟨_, _, rfl, rfl, rfl, rfl⟩, rfl⟩

end PagedFind
