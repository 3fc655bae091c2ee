import PagedFind.Proofs.Json.Grafting
import Mathlib.Data.List.Induction

namespace PagedFind

namespace Json

variable {doc doc' out out' : Json} {paths paths' : List String} {path : String} {keys : List String}
  {entries : Entries Json}

/-- One of the paths leads to a value of the document, and a chain of keys to that value or into it. -/
def Keeps (doc : Json) (paths : List String) (keys : List String) : Prop :=
  ∃ path ∈ paths, (doc.at? path).isSome = true ∧ pathKeys path <+: keys

/-- One of the paths leads to a value of the document, and a chain of keys stops on the way there. -/
def OnTheWay (doc : Json) (paths : List String) (keys : List String) : Prop :=
  ∃ path ∈ paths, (doc.at? path).isSome = true ∧ keys <+: pathKeys path ∧ keys ≠ pathKeys path

instance (doc : Json) (paths keys : List String) : Decidable (doc.Keeps paths keys) :=
  inferInstanceAs (Decidable (∃ path ∈ paths, (doc.at? path).isSome = true ∧ pathKeys path <+: keys))

instance (doc : Json) (paths keys : List String) : Decidable (doc.OnTheWay paths keys) :=
  inferInstanceAs
    (Decidable (∃ path ∈ paths, (doc.at? path).isSome = true ∧ keys <+: pathKeys path ∧ keys ≠ pathKeys path))

/-- An object that holds just what the paths lead to in a document. -/
structure IsProjection (doc : Json) (paths : List String) (out : Json) : Prop where
  object : ∃ entries, out = .object entries
  kept : ∀ keys, doc.Keeps paths keys → out.follow keys = doc.follow keys
  onTheWay : ∀ keys, ¬doc.Keeps paths keys → doc.OnTheWay paths keys →
    ∃ entries, out.follow keys = some (.object entries)
  dropped : ∀ keys, keys ≠ [] → ¬doc.Keeps paths keys → ¬doc.OnTheWay paths keys → out.follow keys = none

theorem keeps_concat : doc.Keeps (paths ++ [path]) keys ↔
    doc.Keeps paths keys ∨ (doc.at? path).isSome = true ∧ pathKeys path <+: keys := by
  simp only [Keeps, List.mem_append, List.mem_singleton, or_and_right, exists_or, exists_eq_left]

theorem onTheWay_concat : doc.OnTheWay (paths ++ [path]) keys ↔ doc.OnTheWay paths keys ∨
    (doc.at? path).isSome = true ∧ keys <+: pathKeys path ∧ keys ≠ pathKeys path := by
  simp only [OnTheWay, List.mem_append, List.mem_singleton, or_and_right, exists_or, exists_eq_left]

theorem OnTheWay.exists_object (h : doc.OnTheWay paths keys) : ∃ entries, doc.follow keys = some (.object entries) := by
  obtain ⟨path, -, hsome, ⟨below, hsplit⟩, hne⟩ := h
  obtain ⟨value, hvalue⟩ := Option.isSome_iff_exists.mp hsome
  have hbelow : below ≠ [] := by
    rintro rfl
    exact hne (by rw [← hsplit, List.append_nil])
  rw [at?, ← hsplit] at hvalue
  obtain ⟨entries, hentries, -⟩ := object_of_follow_append hvalue hbelow
  exact ⟨entries, hentries⟩

theorem IsProjection.isSome_follow (h : doc.IsProjection paths out) (hkeys : keys ≠ [])
    (hsome : (out.follow keys).isSome = true) : (doc.follow keys).isSome = true := by
  by_cases hkept : doc.Keeps paths keys
  · rwa [h.kept keys hkept] at hsome
  · by_cases hway : doc.OnTheWay paths keys
    · obtain ⟨entries, hentries⟩ := hway.exists_object
      rw [hentries]
      rfl
    · rw [h.dropped keys hkeys hkept hway] at hsome
      cases hsome

theorem IsProjection.passable (h : doc.IsProjection paths out) (hsome : (doc.at? path).isSome = true) :
    out.Passable (pathKeys path) := by
  intro above below w hsplit hbelow hw
  obtain ⟨value, hvalue⟩ := Option.isSome_iff_exists.mp hsome
  rw [at?, hsplit] at hvalue
  obtain ⟨inner, hinner, -⟩ := object_of_follow_append hvalue hbelow
  by_cases hkept : doc.Keeps paths above
  · rw [h.kept above hkept, hinner] at hw
    exact ⟨inner, (Option.some.inj hw).symm⟩
  · by_cases hway : doc.OnTheWay paths above
    · obtain ⟨entries, hentries⟩ := h.onTheWay above hkept hway
      rw [hentries] at hw
      exact ⟨entries, (Option.some.inj hw).symm⟩
    · by_cases hnil : above = []
      · subst hnil
        obtain ⟨entries, hentries⟩ := h.object
        exact ⟨entries, (Option.some.inj hw).symm.trans hentries⟩
      · rw [h.dropped above hnil hkept hway] at hw
        cases hw

theorem isProjection_nil (doc : Json) : doc.IsProjection [] (.object []) where
  object := ⟨[], rfl⟩
  kept := by
    rintro keys ⟨path, hpath, -⟩
    cases hpath
  onTheWay := by
    rintro keys - ⟨path, hpath, -⟩
    cases hpath
  dropped := by
    intro keys hkeys _ _
    obtain ⟨key, rest, rfl⟩ := List.exists_cons_of_ne_nil hkeys
    rfl

theorem IsProjection.skip (h : doc.IsProjection paths out) (hnone : doc.at? path = none) :
    doc.IsProjection (paths ++ [path]) out := by
  have hkeeps : ∀ keys, doc.Keeps (paths ++ [path]) keys ↔ doc.Keeps paths keys := by
    intro keys
    simp [keeps_concat, hnone]
  have hway : ∀ keys, doc.OnTheWay (paths ++ [path]) keys ↔ doc.OnTheWay paths keys := by
    intro keys
    simp [onTheWay_concat, hnone]
  refine ⟨h.object, ?_, ?_, ?_⟩
  · intro keys hkept
    exact h.kept keys ((hkeeps keys).mp hkept)
  · intro keys hkept honway
    exact h.onTheWay keys (mt (hkeeps keys).mpr hkept) ((hway keys).mp honway)
  · intro keys hkeys hkept honway
    exact h.dropped keys hkeys (mt (hkeeps keys).mpr hkept) (mt (hway keys).mpr honway)

/-- A chain of keys goes on from the end of another, stops on the way there, or leaves it. -/
theorem chain_cases (path keys : List String) :
    (∃ rest, keys = path ++ rest) ∨ (∃ below, below ≠ [] ∧ path = keys ++ below) ∨
      ¬path <+: keys ∧ ¬keys <+: path := by
  by_cases hdown : path <+: keys
  · obtain ⟨rest, hrest⟩ := hdown
    exact .inl ⟨rest, hrest.symm⟩
  · by_cases hup : keys <+: path
    · obtain ⟨below, hbelow⟩ := hup
      refine .inr (.inl ⟨below, ?_, hbelow.symm⟩)
      rintro rfl
      have hsame : keys = path := (List.append_nil keys).symm.trans hbelow
      exact hdown (hsame ▸ List.prefix_refl path)
    · exact .inr (.inr ⟨hdown, hup⟩)

theorem not_prefix_of_append {path keys below : List String} (hbelow : below ≠ []) (hsplit : path = keys ++ below) :
    ¬path <+: keys := by
  intro hdown
  have hlength := hdown.length_le
  have hpos := List.length_pos_iff.mpr hbelow
  rw [hsplit, List.length_append] at hlength
  omega

section

variable {value : Json} (h : doc.IsProjection paths (object entries)) (hvalue : doc.at? path = some value)

include h hvalue

theorem kept_graft (hdoc : doc.Canonical) (hkept : doc.Keeps (paths ++ [path]) keys) :
    (object (Entries.graft value (pathKeys path) entries)).follow keys = doc.follow keys := by
  have hpass := h.passable (Option.isSome_of_eq_some hvalue)
  rcases chain_cases (pathKeys path) keys with ⟨rest, rfl⟩ | ⟨below, hbelow, hsplit⟩ | ⟨hdown, hup⟩
  · have hthere : doc.follow (pathKeys path) = some value := hvalue
    rw [Entries.follow_graft_append value rest (pathKeys_ne_nil path) hpass, follow_append, hthere]
    rfl
  · -- An object above the value was kept whole, so the value is in it already.
    have hold : doc.Keeps paths keys :=
      (keeps_concat.mp hkept).resolve_right fun hnew => not_prefix_of_append hbelow hsplit hnew.2
    rw [at?, hsplit] at hvalue
    obtain ⟨inner, hinner, hdeep⟩ := object_of_follow_append hvalue hbelow
    have hentries := entriesAt_of_follow ((h.kept keys hold).trans hinner)
    rw [hsplit] at hpass ⊢
    rw [Entries.follow_graft_above value hbelow hpass, hentries, hinner,
      Entries.graft_eq_self (hdoc.follow hinner) hbelow hdeep]
  · have hold : doc.Keeps paths keys := (keeps_concat.mp hkept).resolve_right fun hnew => hdown hnew.2
    rw [Entries.follow_graft_aside value hpass hdown hup]
    exact h.kept keys hold

theorem onTheWay_graft (hkept : ¬doc.Keeps (paths ++ [path]) keys) (hway : doc.OnTheWay (paths ++ [path]) keys) :
    ∃ inner, (object (Entries.graft value (pathKeys path) entries)).follow keys = some (.object inner) := by
  have hsome := Option.isSome_of_eq_some hvalue
  have hpass := h.passable hsome
  rcases chain_cases (pathKeys path) keys with ⟨rest, rfl⟩ | ⟨below, hbelow, hsplit⟩ | ⟨hdown, hup⟩
  · exact absurd (keeps_concat.mpr (.inr ⟨hsome, List.prefix_append _ _⟩)) hkept
  · rw [hsplit] at hpass ⊢
    exact ⟨_, Entries.follow_graft_above value hbelow hpass⟩
  · have hold : doc.OnTheWay paths keys := (onTheWay_concat.mp hway).resolve_right fun hnew => hup hnew.2.1
    rw [Entries.follow_graft_aside value hpass hdown hup]
    exact h.onTheWay keys (fun hkeep => hkept (keeps_concat.mpr (.inl hkeep))) hold

theorem dropped_graft (hkeys : keys ≠ []) (hkept : ¬doc.Keeps (paths ++ [path]) keys)
    (hway : ¬doc.OnTheWay (paths ++ [path]) keys) :
    (object (Entries.graft value (pathKeys path) entries)).follow keys = none := by
  have hsome := Option.isSome_of_eq_some hvalue
  have hpass := h.passable hsome
  rcases chain_cases (pathKeys path) keys with ⟨rest, rfl⟩ | ⟨below, hbelow, hsplit⟩ | ⟨hdown, hup⟩
  · exact absurd (keeps_concat.mpr (.inr ⟨hsome, List.prefix_append _ _⟩)) hkept
  · have hup : keys <+: pathKeys path := ⟨below, hsplit.symm⟩
    have hne : keys ≠ pathKeys path := fun heq =>
      not_prefix_of_append hbelow hsplit (heq ▸ List.prefix_refl _)
    exact absurd (onTheWay_concat.mpr (.inr ⟨hsome, hup, hne⟩)) hway
  · rw [Entries.follow_graft_aside value hpass hdown hup]
    exact h.dropped keys hkeys (fun hkeep => hkept (keeps_concat.mpr (.inl hkeep)))
      (fun honway => hway (onTheWay_concat.mpr (.inl honway)))

/-- A path that leads to a value adds that value. -/
theorem isProjection_graft (hdoc : doc.Canonical) :
    doc.IsProjection (paths ++ [path]) (object (Entries.graft value (pathKeys path) entries)) where
  object := ⟨_, rfl⟩
  kept _ hkept := kept_graft h hvalue hdoc hkept
  onTheWay _ hkept hway := onTheWay_graft h hvalue hkept hway
  dropped _ hkeys hkept hway := dropped_graft h hvalue hkeys hkept hway

end

theorem project_concat (doc : Json) (paths : List String) (path : String) :
    ∃ entries, doc.project paths = .object entries ∧ doc.project (paths ++ [path]) = .object (match doc.at? path with
      | none => entries
      | some value => Entries.graft value (pathKeys path) entries) :=
  ⟨_, rfl, by rw [project, List.foldl_append]; rfl⟩

theorem isProjection_project (hdoc : doc.Canonical) (paths : List String) :
    doc.IsProjection paths (doc.project paths) := by
  induction paths using List.reverseRecOn with
  | nil => exact isProjection_nil doc
  | append_singleton paths path ih =>
    obtain ⟨entries, hbefore, hafter⟩ := project_concat doc paths path
    rw [hbefore] at ih
    rw [hafter]
    cases hvalue : doc.at? path with
    | none => exact ih.skip hvalue
    | some value => exact isProjection_graft ih hvalue hdoc

theorem canonical_project (hdoc : doc.Canonical) (paths : List String) : (doc.project paths).Canonical := by
  induction paths using List.reverseRecOn with
  | nil => exact ⟨.nil, trivial⟩
  | append_singleton paths path ih =>
    obtain ⟨entries, hbefore, hafter⟩ := project_concat doc paths path
    rw [hbefore] at ih
    rw [hafter]
    cases hvalue : doc.at? path with
    | none => exact ih
    | some value => exact Entries.canonical_graft ih (hdoc.follow hvalue) (pathKeys path)

/-- Values are the same where every chain of keys leads in both to the same or to objects in both. -/
theorem eq_of_follow {left right : Json} (hleft : left.Canonical) (hright : right.Canonical)
    (h : ∀ keys, left.follow keys = right.follow keys ∨
      (∃ entries, left.follow keys = some (.object entries)) ∧ ∃ entries, right.follow keys = some (.object entries)) :
    left = right := by
  induction left using inductionOn_get? generalizing right with
  | step left ih =>
    rcases h [] with hsame | ⟨⟨as, has⟩, ⟨bs, hbs⟩⟩
    · exact Option.some.inj hsame
    · cases has
      cases hbs
      refine congrArg object (Entries.eq_of_get?_eq hleft.1 hright.1 fun key => ?_)
      have hhead := h [key]
      rw [follow_singleton, follow_singleton] at hhead
      rcases hhead with hsame | ⟨⟨as', ha⟩, ⟨bs', hb⟩⟩
      · exact hsame
      · rw [ha, hb]
        refine congrArg some (ih key _ ha (hleft.get? ha) (hright.get? hb) fun keys => ?_)
        have hbelow := h (key :: keys)
        have hfollowa : (object as).follow (key :: keys) = (object as').follow keys := by
          rw [follow, get?, ha]
          rfl
        have hfollowb : (object bs).follow (key :: keys) = (object bs').follow keys := by
          rw [follow, get?, hb]
          rfl
        rwa [hfollowa, hfollowb] at hbelow

/-- Projections that keep the same of the same, and have the same on the way to it, are the same. -/
theorem IsProjection.unique (h : doc.IsProjection paths out) (h' : doc'.IsProjection paths' out')
    (hout : out.Canonical) (hout' : out'.Canonical)
    (hkeeps : ∀ keys, doc.Keeps paths keys ↔ doc'.Keeps paths' keys)
    (hway : ∀ keys, doc.OnTheWay paths keys ↔ doc'.OnTheWay paths' keys)
    (hsame : ∀ keys, doc.Keeps paths keys → doc.follow keys = doc'.follow keys) : out = out' := by
  refine eq_of_follow hout hout' fun keys => ?_
  by_cases hkept : doc.Keeps paths keys
  · refine .inl ?_
    rw [h.kept keys hkept, h'.kept keys ((hkeeps keys).mp hkept)]
    exact hsame keys hkept
  · have hkept' : ¬doc'.Keeps paths' keys := mt (hkeeps keys).mpr hkept
    by_cases honway : doc.OnTheWay paths keys
    · exact .inr ⟨h.onTheWay keys hkept honway, h'.onTheWay keys hkept' ((hway keys).mp honway)⟩
    · by_cases hnil : keys = []
      · subst hnil
        obtain ⟨entries, rfl⟩ := h.object
        obtain ⟨entries', rfl⟩ := h'.object
        exact .inr ⟨⟨entries, rfl⟩, entries', rfl⟩
      · refine .inl ?_
        rw [h.dropped keys hnil hkept honway, h'.dropped keys hnil hkept' (mt (hway keys).mpr honway)]

theorem keeps_mono (hsubset : ∀ path ∈ paths, path ∈ paths') (h : doc.Keeps paths keys) : doc.Keeps paths' keys := by
  obtain ⟨path, hpath, hrest⟩ := h
  exact ⟨path, hsubset path hpath, hrest⟩

theorem onTheWay_mono (hsubset : ∀ path ∈ paths, path ∈ paths') (h : doc.OnTheWay paths keys) :
    doc.OnTheWay paths' keys := by
  obtain ⟨path, hpath, hrest⟩ := h
  exact ⟨path, hsubset path hpath, hrest⟩

/-- A path leads somewhere in the projection on paths that it is one of just where it does so in the document. -/
theorem IsProjection.isSome_at?_iff (h : doc.IsProjection paths out) (hpath : path ∈ paths) :
    (out.at? path).isSome = true ↔ (doc.at? path).isSome = true := by
  constructor
  · exact h.isSome_follow (pathKeys_ne_nil path)
  · intro hsome
    have hkept : doc.Keeps paths (pathKeys path) := ⟨path, hpath, hsome, List.prefix_refl _⟩
    rwa [at?, h.kept _ hkept]

theorem project_eq_of_mem_iff (hdoc : doc.Canonical) (hsame : ∀ path, path ∈ paths ↔ path ∈ paths') :
    doc.project paths = doc.project paths' := by
  have hleft : ∀ path ∈ paths, path ∈ paths' := fun path => (hsame path).mp
  have hright : ∀ path ∈ paths', path ∈ paths := fun path => (hsame path).mpr
  exact (isProjection_project hdoc paths).unique (isProjection_project hdoc paths') (canonical_project hdoc paths)
    (canonical_project hdoc paths') (fun _ => ⟨keeps_mono hleft, keeps_mono hright⟩)
    (fun _ => ⟨onTheWay_mono hleft, onTheWay_mono hright⟩) (fun _ _ => rfl)

theorem project_project_of_subset (hdoc : doc.Canonical) (hsubset : ∀ path ∈ paths, path ∈ paths') :
    (doc.project paths').project paths = doc.project paths := by
  have hwide := isProjection_project hdoc paths'
  have hcanonical := canonical_project hdoc paths'
  have hsome : ∀ path ∈ paths, ((doc.project paths').at? path).isSome = true ↔ (doc.at? path).isSome = true :=
    fun path hpath => hwide.isSome_at?_iff (hsubset path hpath)
  refine (isProjection_project hcanonical paths).unique (isProjection_project hdoc paths)
    (canonical_project hcanonical paths) (canonical_project hdoc paths) ?_ ?_ ?_
  · intro keys
    exact exists_congr fun path => and_congr_right fun hpath => and_congr_left' (hsome path hpath)
  · intro keys
    exact exists_congr fun path => and_congr_right fun hpath => and_congr_left' (hsome path hpath)
  · rintro keys ⟨path, hpath, hthere, hprefix⟩
    exact hwide.kept keys ⟨path, hsubset path hpath, (hsome path hpath).mp hthere, hprefix⟩

/-- What a path finds in a projection: what it finds in the document, where one of the paths of the projection leads to
it or to something around it; an object, where it stops on the way of such a path; and nothing otherwise. While the
paths are followed one after the other, only objects are in the way of one that leads to a value, so that it gets
there. -/
theorem at?_project (doc : Json) (hdoc : doc.Canonical) (paths : List String) (path : String) :
    (∃ entries, doc.project paths = .object entries) ∧
      (doc.Keeps paths (pathKeys path) → (doc.project paths).at? path = doc.at? path) ∧
      (¬doc.Keeps paths (pathKeys path) → doc.OnTheWay paths (pathKeys path) →
        ∃ entries, (doc.project paths).at? path = some (.object entries)) ∧
      (¬doc.Keeps paths (pathKeys path) → ¬doc.OnTheWay paths (pathKeys path) →
        (doc.project paths).at? path = none) ∧
      ∀ before wanted after, paths = before ++ wanted :: after → (doc.at? wanted).isSome = true →
        (doc.project before).Passable (pathKeys wanted) ∧
          (doc.project (before ++ [wanted])).at? wanted = doc.at? wanted := by
  have hprojection := isProjection_project hdoc paths
  refine ⟨hprojection.object, hprojection.kept _, hprojection.onTheWay _,
    hprojection.dropped _ (pathKeys_ne_nil path), ?_⟩
  intro before wanted after _ hsome
  have hlast : wanted ∈ before ++ [wanted] := List.mem_append_right before List.mem_cons_self
  exact ⟨(isProjection_project hdoc before).passable hsome,
    (isProjection_project hdoc (before ++ [wanted])).kept _ ⟨wanted, hlast, hsome, List.prefix_refl _⟩⟩

/-- A name is kept whole after a part of it was set, a city alone of its address, and a path through the age is left
out. -/
theorem at?_project_person :
    let doc : Json := .object [("address", .object [("city", .string "Oslo"), ("zip", .nat 150)]), ("age", .nat 30),
      ("name", .object [("first", .string "Ann"), ("last", .string "Lee")])]
    let paths := ["name.first", "age.years", "address.city", "name"]
    doc.Canonical ∧ doc.Keeps paths (pathKeys "name.last") ∧
      (doc.project paths).at? "name.last" = some (.string "Lee") ∧
      ¬doc.Keeps paths (pathKeys "address") ∧ doc.OnTheWay paths (pathKeys "address") ∧
      (∃ entries, (doc.project paths).at? "address" = some (.object entries)) ∧
      ¬doc.Keeps paths (pathKeys "age") ∧ ¬doc.OnTheWay paths (pathKeys "age") ∧
      (doc.project paths).at? "age" = none ∧
      (doc.at? "name").isSome = true ∧
      (doc.project ["name.first", "age.years", "address.city"]).Passable (pathKeys "name") := by
  intro doc paths
  have hdoc : doc.Canonical :=
    ⟨by decide, ⟨by decide, trivial, trivial, trivial⟩, trivial, ⟨by decide, trivial, trivial, trivial⟩, trivial⟩
  have hlast : doc.Keeps paths (pathKeys "name.last") := by decide
  have haddress : ¬doc.Keeps paths (pathKeys "address") := by decide
  have hway : doc.OnTheWay paths (pathKeys "address") := by decide
  have hage : ¬doc.Keeps paths (pathKeys "age") := by decide
  have hageway : ¬doc.OnTheWay paths (pathKeys "age") := by decide
  obtain ⟨-, hkept, -, -, hpass⟩ := at?_project doc hdoc paths "name.last"
  obtain ⟨-, -, hobject, -, -⟩ := at?_project doc hdoc paths "address"
  obtain ⟨-, -, -, hnone, -⟩ := at?_project doc hdoc paths "age"
  have hname := hpass ["name.first", "age.years", "address.city"] "name" [] rfl rfl
  exact ⟨hdoc, hlast, hkept hlast, haddress, hway, hobject haddress hway, hage, hageway, hnone hage hageway, rfl,
    hname.1⟩

/-- A projection depends only on which paths there are, and a projection on more paths does not show in one on fewer. -/
theorem project_absorbs (doc : Json) (hdoc : doc.Canonical) (paths paths' : List String) :
    ((∀ path, path ∈ paths ↔ path ∈ paths') → doc.project paths = doc.project paths') ∧
      ((∀ path ∈ paths, path ∈ paths') → (doc.project paths').project paths = doc.project paths) ∧
      (doc.project paths).project paths = doc.project paths :=
  ⟨project_eq_of_mem_iff hdoc, project_project_of_subset hdoc, project_project_of_subset hdoc fun _ hpath => hpath⟩

/-- A name that is asked for whole and in part, with the part twice. -/
theorem project_absorbs_name :
    let doc : Json := .object [("age", .nat 30), ("name", .object [("first", .string "Ann"), ("last", .string "Lee")])]
    let paths := ["name.first", "name", "name.first"]
    let paths' := ["name", "name.first"]
    doc.Canonical ∧ (∀ path, path ∈ paths ↔ path ∈ paths') ∧ (∀ path ∈ paths, path ∈ paths') ∧
      doc.project paths = doc.project paths' ∧ (doc.project paths').project paths = doc.project paths := by
  intro doc paths paths'
  have hdoc : doc.Canonical := ⟨by decide, trivial, ⟨by decide, trivial, trivial, trivial⟩, trivial⟩
  have hsame : ∀ path, path ∈ paths ↔ path ∈ paths' := by
    intro path
    simp only [paths, paths', List.mem_cons, List.not_mem_nil, or_false]
    tauto
  have hsubset : ∀ path ∈ paths, path ∈ paths' := fun path => (hsame path).mp
  obtain ⟨hequal, habsorbs, -⟩ := project_absorbs doc hdoc paths paths'
  exact ⟨hdoc, hsame, hsubset, hequal hsame, habsorbs hsubset⟩

end Json

end PagedFind
