import PagedFind.Proofs.Store.Indexes
import PagedFind.Proofs.Store.Resumption
import PagedFind.Regex.Match

namespace PagedFind

def PlannedFailure.cause (f : PlannedFailure) : FindError := .backend f.status f.error f.reason

/-- The errors that a store has without any failure that is planned. -/
def FindError.ofStore : List FindError := [.noDatabase, .mixedSort, .noUsableIndex, .invalidBookmark, .pageOverflow]

theorem Collection.mem_ofStore_of_page [Regex.Engine] {c : Collection} {pageLimit : Nat} {request : FindRequest} {e : FindError}
    (h : c.page pageLimit request = .error e) : e ∈ FindError.ofStore := by
  cases hsort : c.checkSort request.sort with
  | error refused =>
    rw [page_of_checkSort_error pageLimit hsort] at h
    cases h
    unfold checkSort at hsort
    split at hsort
    · cases hsort
    · split at hsort
      · cases hsort
        simp [FindError.ofStore]
      · split at hsort <;> cases hsort
        simp [FindError.ofStore]
  | ok _ =>
    rcases sortAccepted_page pageLimit hsort with ⟨page, hpage⟩ | hinvalid | hoverflow
    · rw [hpage] at h
      cases h
    · rw [hinvalid] at h
      cases h
      simp [FindError.ofStore]
    · rw [hoverflow] at h
      cases h
      simp [FindError.ofStore]

namespace Store

section

variable [Regex.Engine]

def Operation.failure? : Operation → Option PlannedFailure
  | .failOn f => some f
  | _ => none

def lastPlanned (history : List Operation) : Option PlannedFailure :=
  (history.filterMap Operation.failure?).getLast?

theorem lastPlanned_concat (history : List Operation) (op : Operation) :
    lastPlanned (history ++ [op]) = (op.failure? <|> lastPlanned history) := by
  rw [lastPlanned, List.filterMap_append, List.getLast?_append]
  cases op <;> rfl

/-- A call for a page, made by itself or by a find, with the calls of the store that came before. -/
structure Served extends Exchange where
  past : List Operation
  database : String

/-- A call met the failure that was planned when it came. -/
structure Served.Met (call : Served) (f : PlannedFailure) : Prop where
  planned : lastPlanned call.past = some f
  outcome : call.outcome = .error f.cause

def servedBy (s : Store) (past : List Operation) : Operation → List Served
  | .execute database request => [⟨⟨request, (s.execute database request).1⟩, past, database⟩]
  | .find database selector options =>
    (findCalls (Store.backend s.limits) database selector options s).map (⟨·, past, database⟩)
  | _ => []

def served (s : Store) (history : List Operation) : List Served :=
  (withPast history).flatMap fun (past, op) => (s.after past).servedBy past op

theorem served_concat (s : Store) (history : List Operation) (op : Operation) :
    s.served (history ++ [op]) = s.served history ++ (s.after history).servedBy history op := by
  rw [served, withPast_concat, List.flatMap_append, List.flatMap_singleton]
  rfl

inductive Part where
  | documents
  | indexes
  | failure
  | calls
deriving DecidableEq

def Operation.part : Operation → Part
  | .addDocuments _ _ => .documents
  | .createIndex _ _ => .indexes
  | .failOn _ => .failure
  | .execute _ _ => .calls
  | .find _ _ _ => .calls

def documents? (s : Store) (database : String) : Option (List Json) :=
  (s.databases.get? database).map (·.documents)

/-- Two stores differ in one part at most. -/
structure SameBut (part : Part) (s t : Store) : Prop where
  limits : t.limits = s.limits
  documents : part ≠ .documents → ∀ database, t.documents? database = s.documents? database
  indexes : part ≠ .indexes → ∀ database, t.indexes database = s.indexes database
  failure : part ≠ .failure → t.failure = s.failure
  calls : part ≠ .calls → t.calls = s.calls

variable {s : Store} {past history : List Operation} {op : Operation} {call : Served} {k : Nat}

omit [Regex.Engine] in
theorem sameBut_called (s : Store) (n : Nat) : SameBut .calls s (s.called n) :=
  ⟨rfl, fun _ _ => rfl, fun _ _ => rfl, fun _ => rfl, fun h => absurd rfl h⟩

omit [Regex.Engine] in
theorem documents?_createIndex (s : Store) (database other : String) (spec : IndexSpec) :
    (s.createIndex other spec).2.documents? database = s.documents? database := by
  rw [documents?, get?_createIndex]
  split
  · rw [Option.map_map]
    refine congrArg (fun read => (s.databases.get? database).map read) (funext fun c => ?_)
    simp only [Function.comp_apply, Collection.withIndex]
    split <;> rfl
  · rfl

/-- A call changes its own part of the store only. -/
theorem sameBut_perform (s : Store) (op : Operation) : SameBut op.part s (s.perform op) := by
  cases op with
  | addDocuments database docs =>
    exact ⟨rfl, fun h => absurd rfl h, fun _ other => indexes_addDocuments docs database, fun _ => rfl, fun _ => rfl⟩
  | createIndex database spec =>
    have hdocuments := fun other => documents?_createIndex s other database spec
    rcases createIndex_cases s database spec with ⟨-, hcreate⟩ | ⟨c, -, -, hcreate⟩ | ⟨c, -, -, hcreate⟩ <;>
      rw [hcreate] at hdocuments <;> rw [perform, hcreate] <;>
      exact ⟨rfl, fun _ => hdocuments, fun h => absurd rfl h, fun _ => rfl, fun _ => rfl⟩
  | failOn failure => exact ⟨rfl, fun _ _ => rfl, fun _ _ => rfl, fun h => absurd rfl h, fun _ => rfl⟩
  | execute database request => exact sameBut_called s 1
  | find database selector options =>
    rw [perform, (answered_find s s.limits database selector options).state]
    exact sameBut_called s _

theorem failure_after (s : Store) (history : List Operation) :
    (s.after history).failure = (lastPlanned history <|> s.failure) := by
  induction history using List.reverseRecOn with
  | nil => rfl
  | append_singleton history op ih =>
    have hframe := (sameBut_perform (s.after history) op).failure
    rw [after_concat, lastPlanned_concat]
    cases op with
    | failOn failure => rfl
    | addDocuments database docs => exact (hframe nofun).trans ih
    | createIndex database spec => exact (hframe nofun).trans ih
    | execute database request => exact (hframe nofun).trans ih
    | find database selector options => exact (hframe nofun).trans ih

theorem failure_after_ofLimits (limits : Limits) (history : List Operation) :
    ((ofLimits limits).after history).failure = lastPlanned history := by
  have hnone : (ofLimits limits).failure = none := rfl
  rw [failure_after, hnone]
  cases lastPlanned history <;> rfl

/-- Every call for a page is counted, and answered as the store stands when it comes. -/
theorem servedBy_step (s : Store) (past : List Operation) (op : Operation) :
    (s.perform op).calls = s.calls + (s.servedBy past op).length ∧
      ∀ k call, (s.servedBy past op)[k]? = some call →
        call.past = past ∧ call.outcome = (s.called k).answer call.database call.request := by
  have hnone : op.part ≠ .calls → (s.perform op).calls = s.calls := (sameBut_perform s op).calls
  cases op with
  | addDocuments database docs => exact ⟨hnone nofun, fun k call hk => by cases hk⟩
  | createIndex database spec => exact ⟨hnone nofun, fun k call hk => by cases hk⟩
  | failOn failure => exact ⟨hnone nofun, fun k call hk => by cases hk⟩
  | execute database request =>
    refine ⟨rfl, fun k call hk => ?_⟩
    cases k with
    | zero =>
      cases hk
      exact ⟨rfl, rfl⟩
    | succ k => cases hk
  | find database selector options =>
    obtain ⟨hstate, houtcome⟩ := answered_find s s.limits database selector options
    refine ⟨?_, fun k call hk => ?_⟩
    · rw [perform, hstate, servedBy, List.length_map]
      rfl
    · rw [servedBy, List.getElem?_map] at hk
      obtain ⟨exchange, hexchange, rfl⟩ := Option.map_eq_some_iff.mp hk
      exact ⟨rfl, houtcome k exchange hexchange⟩

/-- The calls of a history are numbered one after the other. -/
theorem served_run (s : Store) (history : List Operation) :
    (s.after history).calls = s.calls + (s.served history).length ∧
      ∀ k call, (s.served history)[k]? = some call → ∃ j, (s.after call.past).calls + j = s.calls + k ∧
        call.outcome = ((s.after call.past).called j).answer call.database call.request := by
  induction history using List.reverseRecOn with
  | nil => exact ⟨rfl, fun k call hk => by cases hk⟩
  | append_singleton history op ih =>
    obtain ⟨hcalls, houtcome⟩ := ih
    obtain ⟨hmore, hnext⟩ := servedBy_step (s.after history) history op
    rw [served_concat, after_concat, List.length_append]
    refine ⟨by omega, fun k call hk => ?_⟩
    rcases Nat.lt_or_ge k (s.served history).length with hlt | hge
    · rw [List.getElem?_append_left hlt] at hk
      exact houtcome k call hk
    · rw [List.getElem?_append_right hge] at hk
      obtain ⟨rfl, hanswer⟩ := hnext _ call hk
      exact ⟨_, by omega, hanswer⟩

/-- The call of a number meets the failure that is planned for that number, and otherwise has nothing to do with it. -/
theorem outcome_of_served {limits : Limits} (hk : ((ofLimits limits).served history)[k]? = some call) :
    let s := (ofLimits limits).after call.past
    (∀ f, lastPlanned call.past = some f → f.call = k + 1 → call.outcome = .error f.cause) ∧
      ((∀ f, lastPlanned call.past = some f → f.call ≠ k + 1) →
        call.outcome = s.withoutFailure.answer call.database call.request) := by
  intro s
  obtain ⟨-, hserved⟩ := served_run (ofLimits limits) history
  obtain ⟨j, hnumber, houtcome⟩ := hserved k call hk
  have hzero : (ofLimits limits).calls = 0 := rfl
  have hcalls : (s.called j).calls = k := by
    show ((ofLimits limits).after call.past).calls + j = k
    omega
  have hplanned : (s.called j).failure = lastPlanned call.past := failure_after_ofLimits limits call.past
  rw [houtcome]
  refine ⟨fun f hf hdue => ?_, fun hother => ?_⟩
  · exact answer_of_due call.database call.request (hplanned.trans hf) (by rw [hcalls]; exact hdue)
  · rcases (s.called j).quietFor_one_or_due with hquiet | ⟨f, hf, hdue⟩
    · exact answer_of_quietFor hquiet call.database call.request
    · rw [hcalls] at hdue
      exact absurd hdue (hother f (hplanned.symm.trans hf))

theorem mem_ofStore_of_withoutFailure {database : String} {request : FindRequest} {e : FindError}
    (h : s.withoutFailure.answer database request = .error e) : e ∈ FindError.ofStore := by
  rw [answer_withoutFailure] at h
  cases hdb : s.databases.get? database with
  | none =>
    rw [hdb] at h
    cases h
    simp [FindError.ofStore]
  | some c =>
    rw [hdb] at h
    exact Collection.mem_ofStore_of_page h

theorem outcome_eq_cause_iff {limits : Limits} (hk : ((ofLimits limits).served history)[k]? = some call)
    {f : PlannedFailure} (hf : lastPlanned call.past = some f) (hforeign : f.cause ∉ FindError.ofStore) :
    call.outcome = .error f.cause ↔ f.call = k + 1 := by
  obtain ⟨hdue, hother⟩ := outcome_of_served hk
  refine ⟨fun h => ?_, hdue f hf⟩
  by_contra hne
  have hanswer := hother fun g hg => by
    cases hf.symm.trans hg
    exact hne
  exact hforeign (mem_ofStore_of_withoutFailure (hanswer.symm.trans h))

/-- Over any calls of a new store, each call for a page is counted, whatever comes of it. The call whose number is the
one of the last planned failure meets that failure, whatever else would have come of it, and every other call is answered
as if none were planned; so a failure meets one call at most. And each kind of call changes one part of a store: adding
documents the documents, creating an index the indexes, planning a failure the failure, and asking for pages the number
of calls. -/
theorem served_after (limits : Limits) (history : List Operation) :
    let start := ofLimits limits
    let served := start.served history
    (start.after history).calls = served.length ∧
      (∀ k call, served[k]? = some call →
        (∀ f, lastPlanned call.past = some f → f.call = k + 1 → call.outcome = .error f.cause) ∧
        ((∀ f, lastPlanned call.past = some f → f.call ≠ k + 1) →
          call.outcome = (start.after call.past).withoutFailure.answer call.database call.request)) ∧
      (∀ k call f, served[k]? = some call → lastPlanned call.past = some f → f.cause ∉ FindError.ofStore →
        (call.outcome = .error f.cause ↔ f.call = k + 1)) ∧
      (∀ (i j : Nat) (call call' : Served) (f : PlannedFailure), served[i]? = some call →
        served[j]? = some call' → f.cause ∉ FindError.ofStore → call.Met f → call'.Met f → i = j) ∧
      ∀ s op, SameBut (Operation.part op) s (s.perform op) := by
  intro start served
  have hcalls := (served_run start history).1
  refine ⟨hcalls.trans (Nat.zero_add _), fun k call hk => outcome_of_served hk,
    fun k call f hk hf hforeign => outcome_eq_cause_iff hk hf hforeign, ?_, sameBut_perform⟩
  intro i j call call' f hi hj hforeign hmet hmet'
  have hfirst := (outcome_eq_cause_iff hi hmet.planned hforeign).mp hmet.outcome
  have hsecond := (outcome_eq_cause_iff hj hmet'.planned hforeign).mp hmet'.outcome
  omega

end

/-- Of three calls the first finds no database, the second, made by a find, meets its failure before it could find that
out, and the third meets the failure that was planned after that. -/
theorem served_after_replanned :
    let ask : FindRequest := ⟨.null, none, none, none, none, none, false⟩
    let down : PlannedFailure := ⟨2, 500, "down", "no answer"⟩
    let busy : PlannedFailure := ⟨3, 503, "busy", "later"⟩
    let history : List Operation := [.failOn down, .execute "cats" ask, .find "cats" .everything .default,
      .addDocuments "people" [], .failOn busy, .execute "people" ask]
    let start := ofLimits ⟨2, 10⟩
    let served := start.served history
    (start.after history).calls = 3 ∧
      ∃ first second third, served[0]? = some first ∧ served[1]? = some second ∧ served[2]? = some third ∧
        lastPlanned first.past = some down ∧ lastPlanned second.past = some down ∧
        lastPlanned third.past = some busy ∧ down.cause ∉ FindError.ofStore ∧ busy.cause ∉ FindError.ofStore ∧
        first.outcome = .error .noDatabase ∧ second.outcome = .error down.cause ∧
        third.outcome = .error busy.cause := by
  intro ask down busy history start served
  obtain ⟨hcalls, houtcome, hiff, -, -⟩ := served_after ⟨2, 10⟩ history
  have hdown : down.cause ∉ FindError.ofStore := by
    simp [FindError.ofStore, PlannedFailure.cause, down, FindError.noDatabase, FindError.mixedSort,
      FindError.noUsableIndex, FindError.invalidBookmark]
  have hbusy : busy.cause ∉ FindError.ofStore := by
    simp [FindError.ofStore, PlannedFailure.cause, busy, FindError.noDatabase, FindError.mixedSort,
      FindError.noUsableIndex, FindError.invalidBookmark]
  have hlater : ∀ f, some down = some f → f.call ≠ 0 + 1 := by
    rintro f h
    cases h
    decide
  refine ⟨hcalls.trans rfl, _, _, _, rfl, rfl, rfl, rfl, rfl, rfl, hdown, hbusy, ?_, ?_, ?_⟩
  · exact (houtcome 0 _ rfl).2 hlater
  · exact (hiff 1 _ down rfl rfl hdown).mpr rfl
  · exact (hiff 2 _ busy rfl rfl hbusy).mpr rfl

end Store

end PagedFind
