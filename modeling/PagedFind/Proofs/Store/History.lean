import PagedFind.Proofs.Find.States
import PagedFind.Proofs.Json.Entries
import PagedFind.Proofs.Store.Paging
import Mathlib.Data.List.Induction

namespace PagedFind

def withPast {α : Type} : List α → List (List α × α)
  | [] => []
  | a :: later => ([], a) :: (withPast later).map fun (past, b) => (a :: past, b)

theorem withPast_concat {α : Type} (history : List α) (a : α) :
    withPast (history ++ [a]) = withPast history ++ [(history, a)] := by
  induction history with
  | nil => rfl
  | cons b history ih => simp [withPast, ih]

def Collection.withIndex (c : Collection) (index : StoredIndex) : Collection :=
  if index ∈ c.indexes then c else { c with indexes := c.indexes ++ [index] }

def Collection.withDocuments (c : Collection) (docs : List Json) : Collection :=
  { c with documents := c.documents ++ docs }

namespace Store

variable [Regex.Engine]

theorem exists_execute_eq_called (s : Store) (limits : Limits) (database : String) (request : FindRequest) (t : Store)
    (h : ∃ n, t = s.called n) : ∃ n, ((Store.backend limits).execute database request t).2 = s.called n := by
  obtain ⟨n, rfl⟩ := h
  exact ⟨n + 1, called_called s n 1⟩

/-- What became of a store, and of the calls that it answered for pages of a database, one after the other. -/
structure Answered (s : Store) (database : String) (t : Store) (calls : List Exchange) : Prop where
  state : t = s.called calls.length
  outcome : ∀ k call, calls[k]? = some call → call.outcome = (s.called k).answer database call.request

theorem Answered.execute {s t : Store} {database : String} {calls : List Exchange}
    (h : s.Answered database t calls) (request : FindRequest) :
    s.Answered database (t.execute database request).2
      (calls ++ [⟨request, (t.execute database request).1⟩]) := by
  obtain ⟨rfl, houtcome⟩ := h
  refine ⟨?_, fun k call hk => ?_⟩
  · rw [List.length_append]
    exact called_called s calls.length 1
  · rcases Nat.lt_trichotomy k calls.length with hlt | rfl | hgt
    · rw [List.getElem?_append_left hlt] at hk
      exact houtcome k call hk
    · rw [List.getElem?_concat_length] at hk
      cases hk
      rfl
    · rw [List.getElem?_eq_none (by rw [List.length_append]; exact hgt)] at hk
      cases hk

theorem answered_find (s : Store) (limits : Limits) (database : String) (selector : Selector)
    (options : QueryOptions) :
    s.Answered database (PagedFind.find (Store.backend limits) database selector options s).2
      (findCalls (Store.backend limits) database selector options s) := by
  have hstart : s.Answered database s [] := ⟨rfl, fun k call hk => by simp at hk⟩
  have hfind : s.Answered database
      (PagedFind.find (Store.backend limits).recorded database selector options (s, [])).2.1
      (PagedFind.find (Store.backend limits).recorded database selector options (s, [])).2.2 :=
    find_keeps (fun state : Store × List Exchange => s.Answered database state.1 state.2)
      (fun request _ h => h.execute request) selector options hstart
  rw [find_recorded] at hfind
  exact hfind

inductive Operation where
  | addDocuments (database : String) (docs : List Json)
  | createIndex (database : String) (spec : IndexSpec)
  | failOn (failure : PlannedFailure)
  | execute (database : String) (request : FindRequest)
  | find (database : String) (selector : Selector) (options : QueryOptions)

def perform (s : Store) : Operation → Store
  | .addDocuments database docs => s.addDocuments database docs
  | .createIndex database spec => (s.createIndex database spec).2
  | .failOn failure => s.failOn failure
  | .execute database request => (s.execute database request).2
  | .find database selector options => (PagedFind.find (Store.backend s.limits) database selector options s).2

def after (s : Store) (history : List Operation) : Store := history.foldl perform s

@[simp] theorem after_nil (s : Store) : s.after [] = s := rfl

theorem after_append (s : Store) (history later : List Operation) :
    s.after (history ++ later) = (s.after history).after later := List.foldl_append

theorem after_concat (s : Store) (history : List Operation) (op : Operation) :
    s.after (history ++ [op]) = (s.after history).perform op := after_append s history [op]

/-- What a call does to a database, if it is there. -/
def Operation.effect (database : String) (c : Option Collection) : Operation → Option Collection
  | .addDocuments other docs => if other = database then some ((c.getD .empty).withDocuments docs) else c
  | .createIndex other spec => if other = database then c.map (·.withIndex (.ofSpec spec)) else c
  | .failOn _ => c
  | .execute _ _ => c
  | .find _ _ _ => c

def indexes (s : Store) (database : String) : List StoredIndex :=
  ((s.databases.get? database).map (·.indexes)).getD []

/-- Somewhere in a series of calls an index was asked for in a database, with success. -/
def Created (s : Store) (history : List Operation) (database : String) (spec : IndexSpec)
    (outcome : IndexOutcome) : Prop :=
  ∃ before later, history = before ++ .createIndex database spec :: later ∧
    ((s.after before).createIndex database spec).1 = .ok outcome

variable {s : Store} {database : String} {spec : IndexSpec} {outcome : IndexOutcome}

theorem created_concat {history : List Operation} {op : Operation} :
    s.Created (history ++ [op]) database spec outcome ↔ s.Created history database spec outcome ∨
      op = .createIndex database spec ∧ ((s.after history).createIndex database spec).1 = .ok outcome := by
  constructor
  · rintro ⟨before, later, hsplit, hok⟩
    rcases List.eq_nil_or_concat later with rfl | ⟨later, last, rfl⟩
    · obtain ⟨rfl, hop⟩ := List.append_inj' hsplit rfl
      cases hop
      exact .inr ⟨rfl, hok⟩
    · rw [List.concat_eq_append, ← List.cons_append, ← List.append_assoc] at hsplit
      obtain ⟨rfl, -⟩ := List.append_inj' hsplit rfl
      exact .inl ⟨before, later, rfl, hok⟩
  · rintro (⟨before, later, rfl, hok⟩ | ⟨rfl, hok⟩)
    · exact ⟨before, later ++ [op], by simp, hok⟩
    · exact ⟨history, [], rfl, hok⟩

theorem Created.append {history : List Operation} (h : s.Created history database spec outcome)
    (later : List Operation) : s.Created (history ++ later) database spec outcome := by
  obtain ⟨before, between, rfl, hok⟩ := h
  exact ⟨before, between ++ later, by simp, hok⟩

theorem Created.mem {history : List Operation} (h : s.Created history database spec outcome) :
    .createIndex database spec ∈ history := by
  obtain ⟨before, later, rfl, -⟩ := h
  exact List.mem_append_right _ List.mem_cons_self

omit [Regex.Engine] in
/-- What the creation of an index does: it fails where the database is not there, and an index that is there already
is found and not added. -/
theorem createIndex_cases (s : Store) (database : String) (spec : IndexSpec) :
    (s.databases.get? database = none ∧ s.createIndex database spec = (.error .noDatabase, s)) ∨
    (∃ c, s.databases.get? database = some c ∧ StoredIndex.ofSpec spec ∈ c.indexes ∧
      s.createIndex database spec =
        (.ok ⟨.existing, (StoredIndex.ofSpec spec).ddoc, (StoredIndex.ofSpec spec).name⟩, s)) ∨
    ∃ c, s.databases.get? database = some c ∧ StoredIndex.ofSpec spec ∉ c.indexes ∧
      s.createIndex database spec =
        (.ok ⟨.created, (StoredIndex.ofSpec spec).ddoc, (StoredIndex.ofSpec spec).name⟩,
          { s with databases :=
              s.databases.put database { c with indexes := c.indexes ++ [StoredIndex.ofSpec spec] } }) := by
  cases hdb : s.databases.get? database with
  | none => exact .inl ⟨rfl, by simp only [createIndex, hdb]⟩
  | some c =>
    by_cases hthere : StoredIndex.ofSpec spec ∈ c.indexes
    · have hcontains := List.contains_iff_mem.mpr hthere
      exact .inr (.inl ⟨c, rfl, hthere, by simp only [createIndex, hdb, hcontains, if_true]⟩)
    · have hcontains := mt List.contains_iff_mem.mp hthere
      exact .inr (.inr ⟨c, rfl, hthere, by simp only [createIndex, hdb, if_neg hcontains]⟩)

omit [Regex.Engine] in
theorem outcome_of_createIndex (hok : (s.createIndex database spec).1 = .ok outcome) :
    outcome.id = (StoredIndex.ofSpec spec).ddoc ∧ outcome.name = (StoredIndex.ofSpec spec).name := by
  rcases createIndex_cases s database spec with ⟨-, hcreate⟩ | ⟨c, -, -, hcreate⟩ | ⟨c, -, -, hcreate⟩ <;>
    rw [hcreate] at hok <;> cases hok
  · exact ⟨rfl, rfl⟩
  · exact ⟨rfl, rfl⟩

omit [Regex.Engine] in
theorem indexes_addDocuments (docs : List Json) (other : String) :
    (s.addDocuments other docs).indexes database = s.indexes database := by
  simp only [indexes, addDocuments, Entries.get?_put]
  by_cases hother : other = database
  · subst hother
    rw [if_pos rfl]
    cases s.databases.get? other <;> rfl
  · rw [if_neg hother]

omit [Regex.Engine] in
theorem indexes_of_get? {c : Collection} (hdb : s.databases.get? database = some c) :
    s.indexes database = c.indexes := by
  rw [indexes, hdb]
  rfl

omit [Regex.Engine] in
theorem mem_indexes_createIndex {index : StoredIndex} {other : String} :
    index ∈ (s.createIndex other spec).2.indexes database ↔ index ∈ s.indexes database ∨
      other = database ∧ index = .ofSpec spec ∧ ∃ outcome, (s.createIndex other spec).1 = .ok outcome := by
  rcases createIndex_cases s other spec with ⟨-, hcreate⟩ | ⟨c, hdb, hthere, hcreate⟩ | ⟨c, hdb, -, hcreate⟩
  · simp [hcreate]
  · rw [hcreate]
    refine ⟨.inl, ?_⟩
    rintro (hold | ⟨rfl, rfl, -⟩)
    · exact hold
    · rw [indexes_of_get? hdb]
      exact hthere
  · rw [hcreate]
    by_cases hother : other = database
    · subst hother
      simp [indexes, hdb, Entries.get?_put]
    · simp [indexes, Entries.get?_put, hother]

theorem mem_indexes_perform {index : StoredIndex} {op : Operation} :
    index ∈ (s.perform op).indexes database ↔ index ∈ s.indexes database ∨ ∃ spec outcome,
      op = .createIndex database spec ∧ (s.createIndex database spec).1 = .ok outcome ∧ index = .ofSpec spec := by
  cases op with
  | addDocuments other docs => simp [perform, indexes_addDocuments]
  | createIndex other spec =>
    rw [perform, mem_indexes_createIndex]
    constructor
    · rintro (hold | ⟨rfl, hindex, outcome, hok⟩)
      · exact .inl hold
      · exact .inr ⟨spec, outcome, rfl, hok, hindex⟩
    · rintro (hold | ⟨_, outcome, hop, hok, hindex⟩)
      · exact .inl hold
      · cases hop
        exact .inr ⟨rfl, hindex, outcome, hok⟩
  | failOn failure => simp [perform, failOn, indexes]
  | execute other request => simp [perform, execute, indexes]
  | find other selector options =>
    have hcalled := (answered_find s s.limits other selector options).state
    simp [perform, hcalled, called, indexes]

/-- After any calls the indexes of a database are those that it had and those that were created in it. -/
theorem mem_indexes_after {index : StoredIndex} (history : List Operation) :
    index ∈ (s.after history).indexes database ↔ index ∈ s.indexes database ∨
      ∃ spec outcome, s.Created history database spec outcome ∧ index = .ofSpec spec := by
  induction history using List.reverseRecOn with
  | nil => simp [Created]
  | append_singleton history op ih =>
    simp only [after_concat, mem_indexes_perform, ih, created_concat, or_and_right, exists_or, or_assoc, and_assoc]

/-- A new store has no indexes but those that were created. -/
theorem mem_indexes_after_ofLimits {limits : Limits} {history : List Operation} {index : StoredIndex} :
    index ∈ ((ofLimits limits).after history).indexes database ↔
      ∃ spec outcome, (ofLimits limits).Created history database spec outcome ∧ index = .ofSpec spec := by
  have hnone : (ofLimits limits).indexes database = [] := rfl
  rw [mem_indexes_after, hnone]
  simp only [List.not_mem_nil, false_or]

omit [Regex.Engine] in
theorem get?_createIndex (s : Store) (database other : String) (spec : IndexSpec) :
    (s.createIndex other spec).2.databases.get? database =
      if other = database then (s.databases.get? database).map (·.withIndex (.ofSpec spec))
      else s.databases.get? database := by
  rcases createIndex_cases s other spec with ⟨hdb, hcreate⟩ | ⟨c, hdb, hthere, hcreate⟩ | ⟨c, hdb, hnew, hcreate⟩ <;>
    rw [hcreate] <;> by_cases hother : other = database
  · subst hother
    simp [hdb]
  · simp [hother]
  · subst hother
    simp [hdb, Collection.withIndex, hthere]
  · simp [hother]
  · subst hother
    simp [hdb, Collection.withIndex, hnew, Entries.get?_put]
  · simp [hother, Entries.get?_put]

/-- What is in a database depends on what was in it alone, and on what the call does to it. -/
theorem get?_perform (s : Store) (database : String) (op : Operation) :
    (s.perform op).databases.get? database = op.effect database (s.databases.get? database) := by
  cases op with
  | addDocuments other docs =>
    simp only [perform, addDocuments, Entries.get?_put, Operation.effect]
    by_cases hother : other = database
    · subst hother
      rw [if_pos rfl, if_pos rfl]
      rfl
    · rw [if_neg hother, if_neg hother]
  | createIndex other spec => exact get?_createIndex s database other spec
  | failOn failure => rfl
  | execute other request => rfl
  | find other selector options =>
    rw [perform, (answered_find s s.limits other selector options).state]
    rfl

theorem get?_after (s : Store) (database : String) (history : List Operation) :
    (s.after history).databases.get? database =
      history.foldl (Operation.effect database) (s.databases.get? database) := by
  induction history generalizing s with
  | nil => rfl
  | cons op history ih => exact (ih (s.perform op)).trans (by rw [get?_perform]; rfl)

theorem exists_database_perform (op : Operation) (h : ∃ c, s.databases.get? database = some c) :
    ∃ c, (s.perform op).databases.get? database = some c := by
  obtain ⟨c, hdb⟩ := h
  rw [get?_perform, hdb]
  cases op with
  | addDocuments other docs =>
    rw [Operation.effect]
    split
    · exact ⟨_, rfl⟩
    · exact ⟨c, rfl⟩
  | createIndex other spec =>
    rw [Operation.effect]
    split
    · exact ⟨_, rfl⟩
    · exact ⟨c, rfl⟩
  | failOn failure => exact ⟨c, rfl⟩
  | execute other request => exact ⟨c, rfl⟩
  | find other selector options => exact ⟨c, rfl⟩

theorem exists_database_after (history : List Operation) (h : ∃ c, s.databases.get? database = some c) :
    ∃ c, (s.after history).databases.get? database = some c := by
  induction history generalizing s with
  | nil => exact h
  | cons op history ih => exact ih (exists_database_perform op h)

end Store

end PagedFind
