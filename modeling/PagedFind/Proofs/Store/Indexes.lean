import PagedFind.Proofs.Store.History
import PagedFind.Regex.Match

namespace PagedFind

def SortField.Mixed (sort : List SortField) : Prop := ∃ a ∈ sort, ∃ b ∈ sort, a.direction ≠ b.direction

/-- A query is refused because of its sort. -/
def SortRefused (outcome : Except FindError Page) : Prop :=
  outcome = .error .mixedSort ∨ outcome = .error .noUsableIndex

/-- A query is answered with a page, or refused for another reason than its sort: its bookmark, or the place where
its page would end. -/
def SortAccepted (outcome : Except FindError Page) : Prop :=
  (∃ page, outcome = .ok page) ∨ outcome = .error .invalidBookmark ∨ outcome = .error .pageOverflow

theorem SortAccepted.not_refused {outcome : Except FindError Page} (h : SortAccepted outcome) :
    ¬SortRefused outcome := by
  rcases h with ⟨page, rfl⟩ | rfl | rfl <;>
    simp [SortRefused, FindError.mixedSort, FindError.noUsableIndex, FindError.invalidBookmark]

/-- What comes of a sort where it is known whether an index serves it. -/
structure SortVerdict (sort : List SortField) (served : Prop) (outcome : Except FindError Page) : Prop where
  mixed : outcome = .error .mixedSort ↔ SortField.Mixed sort
  unserved : ¬SortField.Mixed sort → (outcome = .error .noUsableIndex ↔ ¬served)
  accepted : ¬SortField.Mixed sort → served → SortAccepted outcome

theorem SortVerdict.congr {sort : List SortField} {served served' : Prop} {outcome : Except FindError Page}
    (h : SortVerdict sort served outcome) (hserved : served ↔ served') : SortVerdict sort served' outcome :=
  ⟨h.mixed, fun hmixed => (h.unserved hmixed).trans (not_congr hserved), fun hmixed hthere =>
    h.accepted hmixed (hserved.mpr hthere)⟩

theorem SortVerdict.not_refused_iff {sort : List SortField} {served : Prop} {outcome : Except FindError Page}
    (h : SortVerdict sort served outcome) : ¬SortRefused outcome ↔ ¬SortField.Mixed sort ∧ served := by
  constructor
  · intro hno
    have hmixed : ¬SortField.Mixed sort := fun hmixed => hno (.inl (h.mixed.mpr hmixed))
    have hserved : ¬¬served := fun hun => hno (.inr ((h.unserved hmixed).mpr hun))
    exact ⟨hmixed, Classical.not_not.mp hserved⟩
  · rintro ⟨hmixed, hserved⟩
    exact (h.accepted hmixed hserved).not_refused

namespace Collection

variable {c : Collection} {sort : List SortField}

theorem any_other_direction_iff : (sort.any fun s => some s.direction != sort.head?.map (·.direction)) = true ↔
    SortField.Mixed sort := by
  cases sort with
  | nil => simp [SortField.Mixed]
  | cons first rest =>
    simp only [List.any_eq_true, List.head?_cons, Option.map_some, bne_iff_ne, ne_eq, Option.some.injEq]
    constructor
    · rintro ⟨s, hs, hne⟩
      exact ⟨s, hs, first, List.mem_cons_self, hne⟩
    · rintro ⟨a, ha, b, hb, hne⟩
      by_cases hfirst : a.direction = first.direction
      · exact ⟨b, hb, fun h => hne (hfirst.trans h.symm)⟩
      · exact ⟨a, ha, hfirst⟩

theorem any_serves_iff {fields : List String} :
    c.indexes.any (·.serves fields) = true ↔ ∃ index ∈ c.indexes, fields <+: index.fields := by
  simp only [List.any_eq_true, StoredIndex.serves, List.isPrefixOf_iff_prefix]

variable [Regex.Engine]

theorem page_of_checkSort_error {request : FindRequest} {e : FindError} (pageLimit : Nat)
    (h : c.checkSort request.sort = .error e) : c.page pageLimit request = .error e := by
  simp only [page, h]

theorem sortAccepted_page {request : FindRequest} (pageLimit : Nat) (h : c.checkSort request.sort = .ok ()) :
    SortAccepted (c.page pageLimit request) := by
  have hoffset : ∀ e, offset request.bookmark = .error e → e = .invalidBookmark := by
    intro e he
    unfold offset at he
    split at he
    · cases he
    · split at he
      · cases he
      · split at he <;> cases he
        rfl
  unfold page
  rw [h]
  cases hread : offset request.bookmark with
  | error e =>
    obtain rfl := hoffset e hread
    exact .inr (.inl rfl)
  | ok start =>
    simp only
    split
    · exact .inr (.inr rfl)
    · exact .inl ⟨_, rfl⟩

theorem sortVerdict_page {request : FindRequest} (pageLimit : Nat) (hsort : request.sort = some sort) :
    SortVerdict sort (∃ index ∈ c.indexes, sort.map (·.field) <+: index.fields) (c.page pageLimit request) := by
  have hdistinct : FindError.mixedSort ≠ FindError.noUsableIndex := by
    simp [FindError.mixedSort, FindError.noUsableIndex]
  have hcheck : c.checkSort request.sort = c.checkSort (some sort) := by rw [hsort]
  by_cases hmixed : SortField.Mixed sort
  · have herror : c.page pageLimit request = .error .mixedSort := by
      refine page_of_checkSort_error pageLimit ?_
      rw [hcheck, checkSort, if_pos (any_other_direction_iff.mpr hmixed)]
    exact ⟨iff_of_true herror hmixed, fun h => absurd hmixed h, fun h => absurd hmixed h⟩
  · have hany := mt any_other_direction_iff.mp hmixed
    by_cases hserved : ∃ index ∈ c.indexes, sort.map (·.field) <+: index.fields
    · have haccepted : SortAccepted (c.page pageLimit request) := by
        refine sortAccepted_page pageLimit ?_
        rw [hcheck, checkSort, if_neg hany, if_pos (any_serves_iff.mpr hserved)]
      have hno := haccepted.not_refused
      exact ⟨iff_of_false (fun h => hno (.inl h)) hmixed,
        fun _ => iff_of_false (fun h => hno (.inr h)) (not_not_intro hserved), fun _ _ => haccepted⟩
    · have herror : c.page pageLimit request = .error .noUsableIndex := by
        refine page_of_checkSort_error pageLimit ?_
        rw [hcheck, checkSort, if_neg hany, if_neg (mt any_serves_iff.mp hserved)]
      refine ⟨iff_of_false ?_ hmixed, fun _ => iff_of_true herror hserved, fun _ h => absurd h hserved⟩
      rw [herror]
      exact fun h => hdistinct (Except.error.inj h).symm

omit [Regex.Engine] in
theorem warning?_of_mem {index : StoredIndex} (hindex : index ∈ c.indexes) {hint : IndexHint}
    (hhint : index.isHinted hint = true) : c.warning? (some hint) = none := by
  have hany : c.indexes.any (·.isHinted hint) = true := List.any_eq_true.mpr ⟨index, hindex, hhint⟩
  have hnonempty : c.indexes.isEmpty = false := by
    cases hindexes : c.indexes with
    | nil =>
      rw [hindexes] at hindex
      cases hindex
    | cons _ _ => rfl
  simp [warning?, Option.filter, hany, hnonempty]

theorem warning_of_page {request : FindRequest} {pageLimit : Nat} {answer : Page}
    (h : c.page pageLimit request = .ok answer) : answer.warning = c.warning? request.useIndex := by
  unfold page at h
  split at h
  · cases h
  · cases h
  · simp only at h
    split at h
    · cases h
    · cases h
      rfl

end Collection

namespace Store

section

variable [Regex.Engine] {s : Store} {database : String} {c : Collection} {request : FindRequest} {sort : List SortField}

/-- The indexes of a new store's database begin with given fields just where one was created that does. -/
theorem exists_prefix_after_iff {limits : Limits} {history : List Operation}
    (hdb : ((ofLimits limits).after history).databases.get? database = some c) (fields : List String) :
    (∃ index ∈ c.indexes, fields <+: index.fields) ↔ ∃ spec outcome,
      (ofLimits limits).Created history database spec outcome ∧ fields <+: spec.fields := by
  have hindexes (index : StoredIndex) : index ∈ c.indexes ↔ ∃ spec outcome,
      (ofLimits limits).Created history database spec outcome ∧ index = .ofSpec spec := by
    rw [← indexes_of_get? hdb, mem_indexes_after_ofLimits]
  simp only [hindexes]
  constructor
  · rintro ⟨_, ⟨spec, outcome, hcreated, rfl⟩, hprefix⟩
    exact ⟨spec, outcome, hcreated, hprefix⟩
  · rintro ⟨spec, outcome, hcreated, hprefix⟩
    exact ⟨_, ⟨spec, outcome, hcreated, rfl⟩, hprefix⟩

theorem sortVerdict_execute (hdb : s.databases.get? database = some c) (hquiet : s.QuietFor 1)
    (hsort : request.sort = some sort) :
    SortVerdict sort (∃ index ∈ c.indexes, sort.map (·.field) <+: index.fields) (s.execute database request).1 := by
  rw [Store.execute, answer_of_quiet hquiet hdb]
  exact Collection.sortVerdict_page _ hsort

theorem sortVerdict_after {limits : Limits} {history : List Operation}
    (hdb : ((ofLimits limits).after history).databases.get? database = some c)
    (hquiet : ((ofLimits limits).after history).QuietFor 1) (hsort : request.sort = some sort) :
    SortVerdict sort (∃ spec outcome, (ofLimits limits).Created history database spec outcome ∧
      sort.map (·.field) <+: spec.fields) (((ofLimits limits).after history).execute database request).1 :=
  (sortVerdict_execute hdb hquiet hsort).congr (exists_prefix_after_iff hdb _)

theorem warning_of_execute {page : Page} (h : (s.execute database request).1 = .ok page) :
    ∃ c, s.databases.get? database = some c ∧ page.warning = c.warning? request.useIndex := by
  rw [Store.execute, answer] at h
  split at h
  · cases h
  · split at h
    · cases h
    next c hdb => exact ⟨c, hdb, Collection.warning_of_page h⟩

theorem warning_of_hinted {index : StoredIndex} {hint : IndexHint} (hindex : index ∈ s.indexes database)
    (hhint : index.isHinted hint = true) (huse : request.useIndex = some hint) {page : Page}
    (h : (s.execute database request).1 = .ok page) : page.warning = none := by
  obtain ⟨c, hdb, hwarning⟩ := warning_of_execute h
  rw [hwarning, huse]
  exact Collection.warning?_of_mem (indexes_of_get? hdb ▸ hindex) hhint

theorem find_warns_of_warning {options : QueryOptions} {warning : Option String}
    (h : ∀ c, s.databases.get? database = some c → c.warning? options.useIndex = warning) (limits : Limits)
    (selector : Selector) : (find (Store.backend limits) database selector options s).1.result.Warns warning := by
  have hpage : ∀ size bookmark t page, (∃ n, t = s.called n) →
      ((Store.backend limits).execute database ((FindRequest.base selector options).forRound size bookmark) t).1.outcome
        = .ok page → page.warning = warning := by
    rintro size bookmark t page ⟨n, rfl⟩ hok
    obtain ⟨c, hdb, hwarning⟩ := warning_of_execute hok
    exact hwarning.trans (h c hdb)
  exact find_warns _ (exists_execute_eq_called s limits database) hpage ⟨0, rfl⟩

theorem find_warnings_of_hinted {index : StoredIndex} {hint : IndexHint} (hindex : index ∈ s.indexes database)
    (hhint : index.isHinted hint = true) (limits : Limits) (selector : Selector) {options : QueryOptions}
    (huse : options.useIndex = some hint) :
    (find (Store.backend limits) database selector options s).1.result.warnings = [] := by
  refine ResultSet.warns_none_iff.mp (find_warns_of_warning (fun c hdb => ?_) limits selector)
  rw [huse]
  exact Collection.warning?_of_mem (indexes_of_get? hdb ▸ hindex) hhint

/-- A created index is there after all later calls, and the id and the name that came back are its own. -/
theorem Created.exists_hinted {history : List Operation} {spec : IndexSpec} {outcome : IndexOutcome}
    (h : s.Created history database spec outcome) {hint : IndexHint}
    (hhint : hint = .designDoc outcome.id ∨ hint = .named outcome.id outcome.name) :
    ∃ index ∈ (s.after history).indexes database, index.isHinted hint = true := by
  refine ⟨.ofSpec spec, (mem_indexes_after history).mpr (.inr ⟨spec, outcome, h, rfl⟩), ?_⟩
  obtain ⟨before, later, -, hcreate⟩ := h
  obtain ⟨hid, hname⟩ := outcome_of_createIndex hcreate
  rcases hhint with rfl | rfl
  · simp [StoredIndex.isHinted, hid]
  · simp [StoredIndex.isHinted, hid, hname]

/-- After any calls of a new store, a query is refused because it mixes directions just where it does, and else
because no index serves it just where none was created that begins with its fields; once accepted, its sort stays so.
And a hint at an index that was created, by the id or the id and name that came back, brings no warning. -/
theorem sorts_and_hints_after (limits : Limits) (history : List Operation) (database : String) :
    let start := ofLimits limits
    let s := start.after history
    (∀ c request sort, s.databases.get? database = some c → s.QuietFor 1 → request.sort = some sort →
      SortVerdict sort (∃ spec outcome, start.Created history database spec outcome ∧
        sort.map (·.field) <+: spec.fields) (s.execute database request).1) ∧
    (∀ c request sort, s.databases.get? database = some c → s.QuietFor 1 → request.sort = some sort →
      ¬SortRefused (s.execute database request).1 →
        ∀ later again, (s.after later).QuietFor 1 → again.sort = some sort →
          SortAccepted ((s.after later).execute database again).1) ∧
    ∀ spec outcome hint, start.Created history database spec outcome →
      hint = .designDoc outcome.id ∨ hint = .named outcome.id outcome.name →
        (∀ request page, request.useIndex = some hint → (s.execute database request).1 = .ok page →
          page.warning = none) ∧
        ∀ selector options, options.useIndex = some hint →
          (find (Store.backend s.limits) database selector options s).1.result.warnings = [] := by
  intro start s
  refine ⟨fun c request sort hdb hquiet hsort => sortVerdict_after hdb hquiet hsort, ?_, ?_⟩
  · intro c request sort hdb hquiet hsort hno later again hquiet' hsort'
    obtain ⟨hmixed, spec, outcome, hcreated, hprefix⟩ :=
      (sortVerdict_after hdb hquiet hsort).not_refused_iff.mp hno
    obtain ⟨c', hdb'⟩ := exists_database_after later ⟨c, hdb⟩
    rw [← after_append] at hdb' hquiet' ⊢
    exact (sortVerdict_after hdb' hquiet' hsort').accepted hmixed
      ⟨spec, outcome, hcreated.append later, hprefix⟩
  · intro spec outcome hint hcreated hhint
    obtain ⟨index, hindex, hnamed⟩ := hcreated.exists_hinted hhint
    exact ⟨fun request page huse hok => warning_of_hinted hindex hnamed huse hok,
      fun selector options huse => find_warnings_of_hinted hindex hnamed s.limits selector huse⟩

end

/-- An index created on age and name serves a sort by age, neither one by name nor one in both directions, and its
design document is hinted at without a warning. -/
theorem sorts_and_hints_after_age :
    let spec : IndexSpec := ⟨["age", "name"], none, some "d"⟩
    let before : List Operation := [.addDocuments "people" []]
    let later : List Operation :=
      [.failOn ⟨1, 500, "down", "no answer"⟩, .execute "people" ⟨.null, none, none, none, none, none, false⟩]
    let s := (ofLimits ⟨2, 10⟩).after (before ++ .createIndex "people" spec :: later)
    let ask (sort : List SortField) : FindRequest := ⟨.null, none, some sort, none, none, none, false⟩
    let hinted : QueryOptions := { QueryOptions.default with useIndex := some (.designDoc "_design/d") }
    (∃ c, s.databases.get? "people" = some c) ∧ s.QuietFor 1 ∧
      (ofLimits ⟨2, 10⟩).Created (before ++ .createIndex "people" spec :: later) "people" spec
        ⟨.created, "_design/d", "idx-age-name"⟩ ∧
      SortAccepted (s.execute "people" (ask [⟨"age", .descending⟩])).1 ∧
      (s.execute "people" (ask [⟨"age", .descending⟩, ⟨"name", .ascending⟩])).1 = .error .mixedSort ∧
      (s.execute "people" (ask [⟨"name", .ascending⟩])).1 = .error .noUsableIndex ∧
      SortAccepted ((s.perform (.addDocuments "cats" [])).execute "people" (ask [⟨"age", .descending⟩])).1 ∧
      (find (Store.backend s.limits) "people" ⟨.present "_id", rfl⟩ hinted s).1.result.warnings = [] := by
  intro spec before later s ask hinted
  have hdb : s.databases.get? "people" = some ⟨[], [.ofSpec spec]⟩ := rfl
  have hquiet : s.QuietFor 1 := by
    intro f hf
    cases hf
    exact .inl (Nat.le_refl 1)
  have hcreated : (ofLimits ⟨2, 10⟩).Created (before ++ .createIndex "people" spec :: later) "people" spec
      ⟨.created, "_design/d", "idx-age-name"⟩ := ⟨before, later, rfl, rfl⟩
  have hplain (field : String) (direction : Direction) : ¬SortField.Mixed [⟨field, direction⟩] := by
    simp [SortField.Mixed]
  obtain ⟨hverdict, hstays, hsilent⟩ :=
    sorts_and_hints_after ⟨2, 10⟩ (before ++ .createIndex "people" spec :: later) "people"
  have hage := (hverdict _ (ask [⟨"age", .descending⟩]) _ hdb hquiet rfl).accepted (hplain _ _)
    ⟨spec, _, hcreated, ⟨["name"], rfl⟩⟩
  have hlater := hstays _ (ask [⟨"age", .descending⟩]) _ hdb hquiet rfl hage.not_refused
    [.addDocuments "cats" []] (ask [⟨"age", .descending⟩]) hquiet rfl
  have hboth := (hverdict _ (ask [⟨"age", .descending⟩, ⟨"name", .ascending⟩]) _ hdb hquiet rfl).mixed.mpr
    ⟨_, List.mem_cons_self, _, List.mem_cons_of_mem _ List.mem_cons_self, by decide⟩
  have hunserved : ¬∃ given outcome, (ofLimits ⟨2, 10⟩).Created (before ++ .createIndex "people" spec :: later)
      "people" given outcome ∧ ["name"] <+: given.fields := by
    rw [← exists_prefix_after_iff hdb]
    simp [StoredIndex.ofSpec, spec]
  have hname := ((hverdict _ (ask [⟨"name", .ascending⟩]) _ hdb hquiet rfl).unserved (hplain _ _)).mpr hunserved
  have hhint := (hsilent spec _ (.designDoc "_design/d") hcreated (.inl rfl)).2 ⟨.present "_id", rfl⟩ hinted rfl
  exact ⟨⟨_, hdb⟩, hquiet, hcreated, hage, hboth, hname, hlater, hhint⟩

end Store

end PagedFind
