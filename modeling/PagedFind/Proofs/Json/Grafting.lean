import PagedFind.Json.Basic
import PagedFind.Proofs.Json.Entries
import PagedFind.Proofs.Text.Split

namespace PagedFind

theorem pathKeys_ne_nil (path : String) : pathKeys path ≠ [] :=
  List.map_eq_nil_iff.not.mpr (Text.split_ne_nil '.' path.toList)

namespace Json

variable {doc v w : Json} {keys above below : List String} {entries : Entries Json}

theorem follow_append (above below : List String) (v : Json) :
    v.follow (above ++ below) = (v.follow above).bind (follow below) := by
  induction above generalizing v with
  | nil => rfl
  | cons key above ih =>
    rw [List.cons_append, follow, follow]
    cases v.get? key with
    | none => rfl
    | some w => exact ih w

theorem object_of_follow_append (h : v.follow (above ++ below) = some w) (hbelow : below ≠ []) :
    ∃ entries, v.follow above = some (.object entries) ∧ (object entries).follow below = some w := by
  rw [follow_append] at h
  obtain ⟨u, hu, hbelowu⟩ := Option.bind_eq_some_iff.mp h
  obtain ⟨key, rest, rfl⟩ := List.exists_cons_of_ne_nil hbelow
  cases u with
  | object entries => exact ⟨entries, hu, hbelowu⟩
  | null => cases hbelowu
  | bool => cases hbelowu
  | number => cases hbelowu
  | string => cases hbelowu
  | array => cases hbelowu

theorem Canonical.follow (hv : v.Canonical) (h : v.follow keys = some w) : w.Canonical := by
  induction keys generalizing v with
  | nil =>
    cases h
    exact hv
  | cons key keys ih =>
    obtain ⟨u, hu, hrest⟩ := Option.bind_eq_some_iff.mp h
    exact ih (hv.get? hu) hrest

/-- All values on the way down a chain of keys are objects, as far as it leads. -/
def Passable (v : Json) (keys : List String) : Prop :=
  ∀ above below w, keys = above ++ below → below ≠ [] → v.follow above = some w → ∃ entries, w = .object entries

/-- The entries of the object that a chain of keys leads to; none where it leads to no object. -/
def entriesAt (v : Json) (keys : List String) : Entries Json := ((v.follow keys).bind object?).getD []

theorem entriesAt_of_follow (h : v.follow keys = some (.object entries)) : v.entriesAt keys = entries := by
  rw [entriesAt, h]
  rfl

theorem entriesAt_of_none (h : v.follow keys = none) : v.entriesAt keys = [] := by
  rw [entriesAt, h]
  rfl

theorem follow_singleton (key : String) (entries : Entries Json) :
    (object entries).follow [key] = Entries.get? key entries := by
  rw [follow]
  cases hget : (object entries).get? key with
  | none => exact hget.symm
  | some w => exact hget.symm

end Json

namespace Entries

open Json

variable {value : Json} {key : String} {keys above below rest : List String} {entries : Entries Json}

theorem graft_cons (value : Json) (hpass : (object entries).Passable (key :: below)) (hbelow : below ≠ []) :
    graft value (key :: below) entries
      = put key (.object (graft value below ((object entries).entriesAt [key]))) entries := by
  obtain ⟨next, rest, rfl⟩ := List.exists_cons_of_ne_nil hbelow
  have hfollow := follow_singleton key entries
  rw [graft]
  cases hget : get? key entries with
  | none =>
    rw [hget] at hfollow
    rw [entriesAt_of_none hfollow]
  | some v =>
    rw [hget] at hfollow
    obtain ⟨inner, rfl⟩ := hpass [key] (next :: rest) v rfl hbelow hfollow
    rw [entriesAt_of_follow hfollow]

theorem exists_graft_eq_put (value : Json) (hpass : (object entries).Passable (key :: below)) :
    ∃ v, graft value (key :: below) entries = put key v entries := by
  by_cases hbelow : below = []
  · subst hbelow
    exact ⟨value, rfl⟩
  · exact ⟨_, graft_cons value hpass hbelow⟩

theorem follow_cons_of_passable {next : List String} (hpass : (object entries).Passable (key :: below))
    (hbelow : below ≠ []) (hnext : next ≠ []) :
    (object entries).follow (key :: next) = (object ((object entries).entriesAt [key])).follow next := by
  have hsingle := follow_singleton key entries
  have hcons : (object entries).follow (key :: next) = (get? key entries).bind (Json.follow next) := rfl
  cases hget : get? key entries with
  | none =>
    rw [hget] at hsingle hcons
    obtain ⟨first, rest, rfl⟩ := List.exists_cons_of_ne_nil hnext
    rw [entriesAt_of_none hsingle, hcons]
    rfl
  | some v =>
    rw [hget] at hsingle hcons
    obtain ⟨inner, rfl⟩ := hpass [key] below v rfl hbelow hsingle
    rw [entriesAt_of_follow hsingle, hcons]
    rfl

theorem passable_below (hpass : (object entries).Passable (key :: below)) (hbelow : below ≠ []) :
    (object ((object entries).entriesAt [key])).Passable below := by
  intro above rest w hsplit hrest hw
  by_cases habove : above = []
  · subst habove
    exact ⟨_, (Option.some.inj hw).symm⟩
  · rw [← follow_cons_of_passable hpass hbelow habove] at hw
    exact hpass (key :: above) rest w (by rw [hsplit, List.cons_append]) hrest hw

theorem follow_put_self (key : String) (v : Json) (entries : Entries Json) (rest : List String) :
    (object (put key v entries)).follow (key :: rest) = v.follow rest := by
  rw [Json.follow, Json.get?, get?_put, if_pos rfl]
  rfl

theorem follow_put_other {other : String} (v : Json) (entries : Entries Json) (rest : List String) (h : key ≠ other) :
    (object (put key v entries)).follow (other :: rest) = (object entries).follow (other :: rest) := by
  rw [Json.follow, Json.follow, Json.get?, Json.get?, get?_put, if_neg h]

/-- A value that was set is at the end of its chain of keys. -/
theorem follow_graft_append (value : Json) (rest : List String) (hkeys : keys ≠ [])
    (hpass : (object entries).Passable keys) :
    (object (graft value keys entries)).follow (keys ++ rest) = value.follow rest := by
  induction keys generalizing entries with
  | nil => exact absurd rfl hkeys
  | cons key below ih =>
    by_cases hbelow : below = []
    · subst hbelow
      exact follow_put_self key value entries rest
    · rw [graft_cons value hpass hbelow, List.cons_append, follow_put_self]
      exact ih hbelow (passable_below hpass hbelow)

theorem entriesAt_cons (hpass : (object entries).Passable (key :: below)) (hbelow : below ≠ []) (above : List String) :
    (object entries).entriesAt (key :: above) = (object ((object entries).entriesAt [key])).entriesAt above := by
  by_cases habove : above = []
  · subst habove
    rfl
  · rw [entriesAt, entriesAt, follow_cons_of_passable hpass hbelow habove]

/-- Above its end, a chain of keys leads to the objects that were there, with the value set in them. -/
theorem follow_graft_above (value : Json) (hbelow : below ≠ []) (hpass : (object entries).Passable (above ++ below)) :
    (object (graft value (above ++ below) entries)).follow above
      = some (.object (graft value below ((object entries).entriesAt above))) := by
  induction above generalizing entries with
  | nil => rfl
  | cons key above ih =>
    have hne : above ++ below ≠ [] := List.append_ne_nil_of_right_ne_nil above hbelow
    rw [List.cons_append] at hpass ⊢
    rw [graft_cons value hpass hne, follow_put_self, ih (passable_below hpass hne),
      entriesAt_cons hpass hne above]

/-- Beside its chain of keys, setting a value changes nothing. -/
theorem follow_graft_aside (value : Json) {beside : List String} (hpass : (object entries).Passable keys)
    (hdown : ¬keys <+: beside) (hup : ¬beside <+: keys) :
    (object (graft value keys entries)).follow beside = (object entries).follow beside := by
  induction keys generalizing entries beside with
  | nil => exact absurd List.nil_prefix hdown
  | cons key below ih =>
    cases beside with
    | nil => exact absurd List.nil_prefix hup
    | cons other beside =>
      by_cases hother : key = other
      · subst hother
        by_cases hbelow : below = []
        · subst hbelow
          exact absurd (List.cons_prefix_cons.mpr ⟨rfl, List.nil_prefix⟩) hdown
        · have hdown' : ¬below <+: beside := fun h => hdown (List.cons_prefix_cons.mpr ⟨rfl, h⟩)
          have hup' : ¬beside <+: below := fun h => hup (List.cons_prefix_cons.mpr ⟨rfl, h⟩)
          have hbeside : beside ≠ [] := by
            rintro rfl
            exact hup' List.nil_prefix
          rw [graft_cons value hpass hbelow, follow_put_self, ih (passable_below hpass hbelow) hdown' hup',
            follow_cons_of_passable hpass hbelow hbeside]
      · obtain ⟨v, hgraft⟩ := exists_graft_eq_put value hpass
        rw [hgraft]
        exact follow_put_other v entries beside hother

/-- Setting a value where it is already changes nothing. -/
theorem graft_eq_self (hentries : (object entries).Canonical) (hkeys : keys ≠ [])
    (h : (object entries).follow keys = some value) : graft value keys entries = entries := by
  induction keys generalizing entries with
  | nil => exact absurd rfl hkeys
  | cons key below ih =>
    by_cases hbelow : below = []
    · subst hbelow
      rw [follow_singleton] at h
      exact put_eq_self hentries.1 h
    · have hsplit : (object entries).follow ([key] ++ below) = some value := h
      obtain ⟨inner, hinner, hvalue⟩ := object_of_follow_append hsplit hbelow
      have hget : get? key entries = some (.object inner) := by rwa [follow_singleton] at hinner
      obtain ⟨next, rest, rfl⟩ := List.exists_cons_of_ne_nil hbelow
      rw [graft, hget]
      simp only
      rw [ih (hentries.get? hget) hbelow hvalue]
      exact put_eq_self hentries.1 hget

theorem canonical_graft (hentries : (object entries).Canonical) (hvalue : value.Canonical) (keys : List String) :
    (object (graft value keys entries)).Canonical := by
  fun_induction graft value keys entries with
  | case1 entries => exact hentries
  | case2 key entries => exact hentries.put hvalue key
  | case3 key next rest entries hget ih => exact hentries.put (ih ⟨.nil, trivial⟩) key
  | case4 key next rest entries inner hget ih => exact hentries.put (ih (hentries.get? hget)) key
  | case5 key next rest entries v hget hother => exact hentries

end Entries

end PagedFind
