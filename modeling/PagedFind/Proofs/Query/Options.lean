import PagedFind.Query.Request
import PagedFind.Proofs.Lists.First
import Mathlib.Data.List.Basic
import Mathlib.Data.List.Induction
import PagedFind.Regex.Match

namespace PagedFind

namespace OptionCall

inductive Kind where
  | fields
  | sort
  | limit
  | fetchAll
  | useIndex
  | executionStats
deriving DecidableEq

def kind : OptionCall → Kind
  | .fields _ => .fields
  | .sort _ => .sort
  | .limit _ => .limit
  | .fetchAll => .fetchAll
  | .useIndex _ => .useIndex
  | .executionStats _ => .executionStats

/-- No call of its kind follows a call of the series. -/
def IsLast (call : OptionCall) (calls : List OptionCall) : Prop :=
  ∃ before after, calls = before ++ call :: after ∧ ∀ later ∈ after, later.kind ≠ call.kind

variable {call next : OptionCall} {calls : List OptionCall}

theorem not_isLast_nil (call : OptionCall) : ¬call.IsLast [] := fun ⟨before, after, heq, _⟩ =>
  List.append_ne_nil_of_right_ne_nil before (List.cons_ne_nil call after) heq.symm

theorem isLast_append_singleton_iff :
    call.IsLast (calls ++ [next]) ↔ next = call ∨ call.IsLast calls ∧ next.kind ≠ call.kind := by
  constructor
  · rintro ⟨before, after, heq, hafter⟩
    rcases List.eq_nil_or_concat after with rfl | ⟨rest, last, rfl⟩
    · obtain ⟨-, hnext⟩ := List.append_inj' heq rfl
      exact .inl (List.singleton_inj.mp hnext)
    · rw [List.concat_eq_append] at heq hafter
      rw [← List.cons_append, ← List.append_assoc] at heq
      obtain ⟨rfl, hnext⟩ := List.append_inj' heq rfl
      obtain rfl := List.singleton_inj.mp hnext
      obtain ⟨hrest, hlast⟩ := List.forall_mem_append.mp hafter
      exact .inr ⟨⟨before, rest, rfl, hrest⟩, hlast next List.mem_cons_self⟩
  · rintro (rfl | ⟨⟨before, after, rfl, hafter⟩, hnext⟩)
    · exact ⟨calls, [], rfl, List.forall_mem_nil _⟩
    · exact ⟨before, after ++ [next], by simp, List.forall_mem_append.mpr ⟨hafter, List.forall_mem_singleton.mpr hnext⟩⟩

theorem isLast_iff_getLast?_filter : call.IsLast calls ↔ (calls.filter (·.kind = call.kind)).getLast? = some call := by
  induction calls using List.reverseRecOn with
  | nil => exact iff_of_false call.not_isLast_nil nofun
  | append_singleton calls next ih =>
    rw [isLast_append_singleton_iff, ih, List.filter_append]
    by_cases hkind : next.kind = call.kind
    · simp [hkind]
    · have hne : next ≠ call := fun heq => hkind (congrArg kind heq)
      simp [hkind, hne]

theorem isLast_fetchAll_iff : fetchAll.IsLast calls ↔ .fetchAll ∈ calls := by
  induction calls using List.reverseRecOn with
  | nil => exact iff_of_false (not_isLast_nil _) List.not_mem_nil
  | append_singleton calls next ih =>
    rw [isLast_append_singleton_iff, ih, List.mem_append, List.mem_singleton]
    cases next <;> simp [kind]

/-- Without a call that another one of its kind follows, a series has the same last calls. -/
theorem isLast_append_cons_iff {before after : List OptionCall} {dropped : OptionCall}
    (hlater : ∃ later ∈ after, later.kind = dropped.kind) :
    call.IsLast (before ++ dropped :: after) ↔ call.IsLast (before ++ after) := by
  obtain ⟨later, hmem, hkind⟩ := hlater
  rw [isLast_iff_getLast?_filter, isLast_iff_getLast?_filter, List.filter_append, List.filter_append, List.filter_cons]
  by_cases hdropped : dropped.kind = call.kind
  · have hne : after.filter (·.kind = call.kind) ≠ [] :=
      List.ne_nil_of_mem (List.mem_filter.mpr ⟨hmem, decide_eq_true (hkind.trans hdropped)⟩)
    rw [if_pos (decide_eq_true hdropped), List.getLast?_append_of_ne_nil _ hne,
      List.getLast?_append_of_ne_nil _ (List.cons_ne_nil _ _), List.getLast?_cons_of_ne_nil hne]
  · simp [hdropped]

end OptionCall

namespace QueryOptions

open OptionCall (IsLast)

def Bears (options : QueryOptions) : OptionCall → Prop
  | .fields names => options.fields = some names
  | .sort fields => options.sort = some fields
  | .limit rows => options.limit = some rows
  | .fetchAll => options.fetchAll = true
  | .useIndex hint => options.useIndex = some hint
  | .executionStats enabled => options.executionStats = enabled

/-- Two series have the same last calls; of the call for all rows it is enough that both have it or neither. -/
structure SameLast (calls calls' : List OptionCall) : Prop where
  last : ∀ call : OptionCall, call ≠ .fetchAll → (call.IsLast calls ↔ call.IsLast calls')
  fetchAll : .fetchAll ∈ calls ↔ .fetchAll ∈ calls'

inductive Fault (calls : List OptionCall) : SelectorError → Prop where
  | emptyProjection (last : IsLast (.fields []) calls) : Fault calls .emptyProjection
  | unnamedField {names : List String} (last : IsLast (.fields names) calls) (unnamed : "" ∈ names) :
      Fault calls (.emptyFieldName .projection)
  | emptySort (last : IsLast (.sort []) calls) : Fault calls .emptySort
  | unnamedSortField {fields : List SortField} {direction : Direction} (last : IsLast (.sort fields) calls)
      (unnamed : ⟨"", direction⟩ ∈ fields) : Fault calls (.emptyFieldName .sort)

/-- What may be wrong, in the order in which it is looked for. -/
def faults : List SelectorError :=
  [.emptyProjection, .emptyFieldName .projection, .emptySort, .emptyFieldName .sort]

/-- A request that asks for what the last calls of a series set, and for no round in particular. -/
structure Carries (calls : List OptionCall) (request : FindRequest) : Prop where
  fields : ∀ names, request.fields = some names ↔ IsLast (.fields names) calls
  sort : ∀ fields, request.sort = some fields ↔ IsLast (.sort fields) calls
  useIndex : ∀ hint, request.useIndex = some hint ↔ IsLast (.useIndex hint) calls
  executionStats : request.executionStats = true ↔ IsLast (.executionStats true) calls
  limit : request.limit = none
  bookmark : request.bookmark = none

variable {options options' : QueryOptions} {calls calls' : List OptionCall} {call next : OptionCall} {e : SelectorError}

theorem sameLast_iff : SameLast calls calls' ↔ ∀ call : OptionCall, call.IsLast calls ↔ call.IsLast calls' := by
  constructor
  · intro h call
    by_cases hcall : call = .fetchAll
    · rw [hcall, OptionCall.isLast_fetchAll_iff, OptionCall.isLast_fetchAll_iff, h.fetchAll]
    · exact h.last call hcall
  · intro h
    refine ⟨fun call _ => h call, ?_⟩
    rw [← OptionCall.isLast_fetchAll_iff, ← OptionCall.isLast_fetchAll_iff, h]

theorem eq_of_bears (h : ∀ call, call ≠ .executionStats false → (options.Bears call ↔ options'.Bears call)) :
    options = options' := by
  have hfields := Option.ext fun names => h (.fields names) nofun
  have hsort := Option.ext fun fields => h (.sort fields) nofun
  have hlimit := Option.ext fun rows => h (.limit rows) nofun
  have hfetchAll := Bool.eq_iff_iff.mpr (h .fetchAll nofun)
  have huseIndex := Option.ext fun hint => h (.useIndex hint) nofun
  have hstats := Bool.eq_iff_iff.mpr (h (.executionStats true) nofun)
  obtain ⟨fields, sort, limit, fetchAll, useIndex, executionStats⟩ := options
  simp only at hfields hsort hlimit hfetchAll huseIndex hstats
  rw [hfields, hsort, hlimit, hfetchAll, huseIndex, hstats]

theorem bears_apply_iff :
    (options.apply next).Bears call ↔ next = call ∨ options.Bears call ∧ next.kind ≠ call.kind := by
  cases next <;> cases call <;> simp [apply, Bears, OptionCall.kind]

/-- After a series of calls the options are as the last calls set them, and as they were where no call set them. -/
theorem bears_foldl_apply_iff : (calls.foldl apply options).Bears call ↔
    call.IsLast calls ∨ options.Bears call ∧ ∀ other ∈ calls, other.kind ≠ call.kind := by
  induction calls using List.reverseRecOn with
  | nil => simp [call.not_isLast_nil]
  | append_singleton calls next ih =>
    rw [List.foldl_append, List.foldl_cons, List.foldl_nil, bears_apply_iff, ih, OptionCall.isLast_append_singleton_iff,
      List.forall_mem_append, List.forall_mem_singleton]
    -- Either the call is the next one, or it was the last before and the next one is of another kind.
    tauto

theorem bears_foldl_default_iff (call : OptionCall) (h : call ≠ .executionStats false) :
    (calls.foldl apply default).Bears call ↔ call.IsLast calls := by
  have hdefault : ¬default.Bears call := by
    cases call <;> simp_all [Bears, default]
  rw [bears_foldl_apply_iff]
  simp [hdefault]

theorem checkNames_eq_error_iff {property : SelectorError → Prop} {whenEmpty : SelectorError} {list : FieldList}
    {names : Option (List String)} (hempty : property whenEmpty ↔ names = some [])
    (hunnamed : property (.emptyFieldName list) ↔ ∃ l, names = some l ∧ "" ∈ l) :
    checkNames whenEmpty list names = .error e ↔
      ∃ before, FirstWith property [whenEmpty, .emptyFieldName list] before e := by
  simp only [exists_firstWith_cons_iff, not_firstWith_nil, exists_false, and_false, or_false, hempty, hunnamed]
  match names with
  | none => simp [checkNames]
  | some [] => simp [checkNames, eq_comm]
  | some (name :: names) =>
    by_cases hmem : "" ∈ name :: names
    · simp [checkNames, hmem, eq_comm]
    · simp [checkNames, hmem]

theorem fields_foldl_eq_some_iff {names : List String} :
    (calls.foldl apply default).fields = some names ↔ IsLast (.fields names) calls :=
  bears_foldl_default_iff (.fields names) nofun

theorem sort_foldl_eq_some_iff {fields : List SortField} :
    (calls.foldl apply default).sort = some fields ↔ IsLast (.sort fields) calls :=
  bears_foldl_default_iff (.sort fields) nofun

theorem checkNames_fields_eq_error_iff :
    checkNames .emptyProjection .projection (calls.foldl apply default).fields = .error e ↔
      ∃ before, FirstWith (Fault calls) [.emptyProjection, .emptyFieldName .projection] before e := by
  refine checkNames_eq_error_iff ⟨?_, fun hnames => ?_⟩ ⟨?_, ?_⟩
  · rintro ⟨last⟩
    exact fields_foldl_eq_some_iff.mpr last
  · exact .emptyProjection (fields_foldl_eq_some_iff.mp hnames)
  · rintro (_ | ⟨last, unnamed⟩)
    exact ⟨_, fields_foldl_eq_some_iff.mpr last, unnamed⟩
  · rintro ⟨names, hnames, unnamed⟩
    exact .unnamedField (fields_foldl_eq_some_iff.mp hnames) unnamed

theorem checkNames_sort_eq_error_iff :
    checkNames .emptySort .sort ((calls.foldl apply default).sort.map fun fields => fields.map (·.field)) = .error e ↔
      ∃ before, FirstWith (Fault calls) [.emptySort, .emptyFieldName .sort] before e := by
  refine checkNames_eq_error_iff ?_ ?_
  · rw [Option.map_eq_some_iff]
    constructor
    · rintro (_ | _ | last)
      exact ⟨[], sort_foldl_eq_some_iff.mpr last, rfl⟩
    · rintro ⟨fields, hfields, hnil⟩
      obtain rfl := List.map_eq_nil_iff.mp hnil
      exact .emptySort (sort_foldl_eq_some_iff.mp hfields)
  · simp only [Option.map_eq_some_iff]
    constructor
    · rintro (_ | _ | _ | ⟨last, unnamed⟩)
      exact ⟨_, ⟨_, sort_foldl_eq_some_iff.mpr last, rfl⟩, List.mem_map_of_mem unnamed⟩
    · rintro ⟨_, ⟨fields, hfields, rfl⟩, unnamed⟩
      obtain ⟨⟨_, direction⟩, hmem, rfl⟩ := List.mem_map.mp unnamed
      exact .unnamedSortField (sort_foldl_eq_some_iff.mp hfields) hmem

theorem check_eq_error_iff : options.check = .error e ↔
    checkNames .emptyProjection .projection options.fields = .error e ∨
      (∀ e', checkNames .emptyProjection .projection options.fields ≠ .error e') ∧
        checkNames .emptySort .sort (options.sort.map fun fields => fields.map (·.field)) = .error e := by
  rw [check]
  cases checkNames .emptyProjection .projection options.fields <;> simp [bind, Except.bind]

theorem ofCalls_eq_error_iff_check : ofCalls calls = .error e ↔ (calls.foldl apply default).check = .error e := by
  rw [ofCalls]
  cases (calls.foldl apply default).check <;> simp [bind, Except.bind, pure, Except.pure]

theorem ofCalls_eq_error_iff : ofCalls calls = .error e ↔ ∃ before, FirstWith (Fault calls) faults before e := by
  have hfaults : faults = [.emptyProjection, .emptyFieldName .projection] ++ [.emptySort, .emptyFieldName .sort] := rfl
  rw [ofCalls_eq_error_iff_check, check_eq_error_iff, checkNames_sort_eq_error_iff, hfaults,
    exists_firstWith_append_iff]
  simp only [ne_eq, checkNames_fields_eq_error_iff, forall_not_firstWith_iff]

theorem ofCalls_eq_ok_iff : ofCalls calls = .ok options ↔
    (∀ e, ofCalls calls ≠ .error e) ∧ options = calls.foldl apply default := by
  rw [ofCalls]
  cases (calls.foldl apply default).check <;> simp [bind, Except.bind, pure, Except.pure, eq_comm]

theorem carries_base [Regex.Engine] (selector : Selector) : Carries calls (.base selector (calls.foldl apply default)) where
  fields _ := fields_foldl_eq_some_iff
  sort _ := sort_foldl_eq_some_iff
  useIndex hint := bears_foldl_default_iff (.useIndex hint) nofun
  executionStats := bears_foldl_default_iff (.executionStats true) nofun
  limit := rfl
  bookmark := rfl

theorem rowLimit_foldl_eq_some_iff {n : Nat} :
    (calls.foldl apply default).rowLimit = some n ↔ 0 < n ∧ IsLast (.limit n) calls := by
  have hlimit : (calls.foldl apply default).limit = some n ↔ IsLast (.limit n) calls :=
    bears_foldl_default_iff (.limit n) nofun
  rw [rowLimit, Option.filter_eq_some_iff, hlimit, decide_eq_true_iff, and_comm]

theorem rowLimit_foldl_eq_none_iff :
    (calls.foldl apply default).rowLimit = none ↔ ∀ n, IsLast (.limit n) calls → n = 0 := by
  simp only [Option.eq_none_iff_forall_ne_some, ne_eq, rowLimit_foldl_eq_some_iff, not_and']
  exact forall_congr' fun n => imp_congr_right fun _ => Nat.pos_iff_ne_zero.not_left

theorem fetchAll_foldl_iff : (calls.foldl apply default).fetchAll = true ↔ .fetchAll ∈ calls := by
  rw [← OptionCall.isLast_fetchAll_iff]
  exact bears_foldl_default_iff .fetchAll nofun

theorem pagination_eq_upTo_iff {n : Nat} : options.pagination = .upTo n ↔ options.rowLimit = some n := by
  rw [pagination]
  cases options.rowLimit <;> cases options.fetchAll <;> simp

theorem pagination_eq_exhaust_iff :
    options.pagination = .exhaust ↔ options.fetchAll = true ∧ options.rowLimit = none := by
  rw [pagination]
  cases options.rowLimit <;> cases options.fetchAll <;> simp

theorem pagination_eq_single_iff :
    options.pagination = .single ↔ ¬options.fetchAll = true ∧ options.rowLimit = none := by
  rw [pagination]
  cases options.rowLimit <;> cases options.fetchAll <;> simp

theorem Fault.mem_faults (h : Fault calls e) : e ∈ faults := by
  cases h <;> decide

theorem ofCalls_congr (h : SameLast calls calls') : ofCalls calls' = ofCalls calls := by
  have hfolded : calls'.foldl apply default = calls.foldl apply default := by
    refine eq_of_bears fun call hcall => ?_
    rw [bears_foldl_default_iff call hcall, bears_foldl_default_iff call hcall, sameLast_iff.mp h]
  rw [ofCalls, ofCalls, hfolded]

/-- Options are made of the last call of each kind, and of the call for all rows if it is there. No earlier call and no
order between calls of different kinds matters. The first thing that is wrong with the last lists of names is reported,
and nothing else is an error. A last limit above zero counts before the wish for all rows, and the request that all
rounds share asks for the rest as the last calls set it. -/
theorem ofCalls_last [Regex.Engine] (calls : List OptionCall) :
    (∀ calls', SameLast calls calls' → ofCalls calls' = ofCalls calls) ∧
      (∀ calls', (∀ kind, calls'.filter (·.kind = kind) = calls.filter (·.kind = kind)) →
        ofCalls calls' = ofCalls calls) ∧
      (∀ before dropped after, calls = before ++ dropped :: after → (∃ later ∈ after, later.kind = dropped.kind) →
        ofCalls (before ++ after) = ofCalls calls) ∧
      ((∃ e, ofCalls calls = .error e) ↔ ∃ e, Fault calls e) ∧
      (∀ e, ofCalls calls = .error e ↔ ∃ before, FirstWith (Fault calls) faults before e) ∧
      ∀ options, ofCalls calls = .ok options →
        (∀ n, options.pagination = .upTo n ↔ 0 < n ∧ IsLast (.limit n) calls) ∧
        (options.pagination = .exhaust ↔ .fetchAll ∈ calls ∧ ∀ n, IsLast (.limit n) calls → n = 0) ∧
        (options.pagination = .single ↔ .fetchAll ∉ calls ∧ ∀ n, IsLast (.limit n) calls → n = 0) ∧
        ∀ selector : Selector, (FindRequest.base selector options).selector = selector.document ∧
          Carries calls (.base selector options) := by
  refine ⟨fun calls' => ofCalls_congr, fun calls' hfilter => ofCalls_congr ?_,
    fun before dropped after heq hlater => ofCalls_congr ?_, ?_, fun e => ofCalls_eq_error_iff,
    fun options hoptions => ?_⟩
  · refine sameLast_iff.mpr fun call => ?_
    rw [OptionCall.isLast_iff_getLast?_filter, OptionCall.isLast_iff_getLast?_filter, hfilter]
  · refine sameLast_iff.mpr fun call => ?_
    rw [heq, OptionCall.isLast_append_cons_iff hlater]
  · simp only [ofCalls_eq_error_iff]
    rw [exists_comm, exists_firstWith_iff]
    exact ⟨fun ⟨e, _, hfault⟩ => ⟨e, hfault⟩, fun ⟨e, hfault⟩ => ⟨e, hfault.mem_faults, hfault⟩⟩
  · obtain ⟨-, rfl⟩ := ofCalls_eq_ok_iff.mp hoptions
    refine ⟨fun n => ?_, ?_, ?_, fun selector => ⟨rfl, carries_base selector⟩⟩
    · rw [pagination_eq_upTo_iff, rowLimit_foldl_eq_some_iff]
    · rw [pagination_eq_exhaust_iff, fetchAll_foldl_iff, rowLimit_foldl_eq_none_iff]
    · rw [pagination_eq_single_iff, fetchAll_foldl_iff, rowLimit_foldl_eq_none_iff]

/-- An empty list of names that a later call replaces does no harm, and a later limit of zero makes way for the wish for
all rows, however often it is made. Of two empty names the one in the projection is reported, whichever list came
first. -/
theorem ofCalls_last_fields :
    let calls : List OptionCall := [.fields [], .limit 5, .fetchAll, .fields ["name"], .limit 0]
    let options : QueryOptions := ⟨some ["name"], none, some 0, true, none, false⟩
    ofCalls [.fetchAll, .fields ["name"], .limit 0, .fetchAll] = ofCalls calls ∧
      ofCalls [.limit 5, .limit 0, .fields [], .fields ["name"], .fetchAll] = ofCalls calls ∧
      ofCalls [.limit 5, .fetchAll, .fields ["name"], .limit 0] = ofCalls calls ∧
      ofCalls calls = .ok options ∧ options.pagination = .exhaust ∧ (∀ n, IsLast (.limit n) calls → n = 0) ∧
      Carries calls (.base .everything options) ∧
      ofCalls [.sort [⟨"", .ascending⟩], .fields ["name", ""]] = .error (.emptyFieldName .projection) := by
  intro calls options
  obtain ⟨hlast, hfilter, hdropped, -, -, hok⟩ := ofCalls_last calls
  obtain ⟨-, hexhaust, -, hbase⟩ := hok options rfl
  refine ⟨hlast _ (sameLast_iff.mpr fun call => ?_), hfilter _ fun kind => ?_,
    hdropped [] (.fields []) _ rfl ⟨.fields ["name"], by decide, rfl⟩, rfl, rfl, (hexhaust.mp rfl).2,
    (hbase .everything).2, rfl⟩
  · rw [OptionCall.isLast_iff_getLast?_filter, OptionCall.isLast_iff_getLast?_filter]
    cases call <;> exact Iff.rfl
  · cases kind <;> rfl

end QueryOptions

end PagedFind
