import PagedFind.Proofs.Json.Alike

namespace PagedFind

theorem Text.compare_eq_lt_iff {a b : String} : Text.compare a b = .lt ↔ a < b := compareOfLessAndEq_eq_lt

theorem Text.compare_eq_gt_iff {a b : String} : Text.compare a b = .gt ↔ b < a :=
  (@Std.OrientedCmp.gt_iff_lt String Ord.compare _ a b).trans Text.compare_eq_lt_iff

namespace Entries

variable {α : Type} {key other : String} {value : α} {entries rest : Entries α}

instance (entries : Entries α) : Decidable entries.Sorted :=
  inferInstanceAs (Decidable (entries.keys.Pairwise (· < ·)))

theorem get?_put (key sought : String) (value : α) (entries : Entries α) :
    (entries.put key value).get? sought = if key = sought then some value else entries.get? sought := by
  induction entries with
  | nil => rfl
  | cons entry rest ih =>
    obtain ⟨k, v⟩ := entry
    cases hcompare : Text.compare key k with
    | lt => simp only [put, hcompare, get?]
    | eq =>
      have hsame : key = k := Text.compare_eq_iff.mp hcompare
      simp only [put, hcompare, get?]
      by_cases hkey : key = sought
      · rw [if_pos hkey, if_pos hkey]
      · rw [if_neg hkey, if_neg hkey, if_neg (hsame ▸ hkey)]
    | gt =>
      have hother : key ≠ k := by
        rintro rfl
        rw [Text.compare_eq_iff.mpr rfl] at hcompare
        cases hcompare
      simp only [put, hcompare, get?, ih]
      by_cases hk : k = sought
      · rw [if_pos hk, if_pos hk, if_neg fun hkey => hother (hkey.trans hk.symm)]
      · rw [if_neg hk, if_neg hk]

theorem mem_of_get? (h : entries.get? key = some value) : (key, value) ∈ entries := by
  induction entries with
  | nil => cases h
  | cons entry rest ih =>
    obtain ⟨k, v⟩ := entry
    rw [get?] at h
    split at h
    next hkey =>
      cases h
      rw [hkey]
      exact List.mem_cons_self
    next => exact List.mem_cons_of_mem _ (ih h)

theorem mem_keys_of_get? (h : entries.get? key = some value) : key ∈ entries.keys :=
  List.mem_map_of_mem (mem_of_get? h)

theorem sorted_cons {k : String} {v : α} :
    Sorted ((k, v) :: rest) ↔ (∀ l ∈ rest.keys, k < l) ∧ rest.Sorted := List.pairwise_cons

theorem get?_eq_none_of_lt (h : ∀ l ∈ entries.keys, key < l) : entries.get? key = none := by
  cases hget : entries.get? key with
  | none => rfl
  | some value => exact absurd (h key (mem_keys_of_get? hget)) (String.lt_irrefl key)

theorem mem_put {added : String × α} (h : added ∈ entries.put key value) : added = (key, value) ∨ added ∈ entries := by
  induction entries with
  | nil => exact .inl (List.mem_singleton.mp h)
  | cons entry rest ih =>
    obtain ⟨k, v⟩ := entry
    rw [put] at h
    split at h
    · exact List.mem_cons.mp h
    · exact (List.mem_cons.mp h).imp_right (List.mem_cons_of_mem _)
    · rcases List.mem_cons.mp h with hfirst | hrest
      · exact .inr (List.mem_cons.mpr (.inl hfirst))
      · exact (ih hrest).imp_right (List.mem_cons_of_mem _)

theorem mem_keys_put (h : other ∈ (entries.put key value).keys) : other = key ∨ other ∈ entries.keys := by
  obtain ⟨entry, hentry, rfl⟩ := List.mem_map.mp h
  rcases mem_put hentry with rfl | hold
  · exact .inl rfl
  · exact .inr (List.mem_map_of_mem hold)

theorem sorted_put (key : String) (value : α) (h : entries.Sorted) : (entries.put key value).Sorted := by
  induction entries with
  | nil => exact List.pairwise_singleton _ key
  | cons entry rest ih =>
    obtain ⟨k, v⟩ := entry
    obtain ⟨hfirst, hrest⟩ := sorted_cons.mp h
    cases hcompare : Text.compare key k with
    | lt =>
      have hlt : key < k := Text.compare_eq_lt_iff.mp hcompare
      simp only [put, hcompare]
      refine sorted_cons.mpr ⟨?_, h⟩
      intro l hl
      rcases List.mem_cons.mp hl with rfl | hl
      · exact hlt
      · exact String.lt_trans hlt (hfirst l hl)
    | eq =>
      obtain rfl : key = k := Text.compare_eq_iff.mp hcompare
      simp only [put, hcompare]
      exact sorted_cons.mpr ⟨hfirst, hrest⟩
    | gt =>
      have hgt : k < key := Text.compare_eq_gt_iff.mp hcompare
      simp only [put, hcompare]
      refine sorted_cons.mpr ⟨?_, ih hrest⟩
      intro l hl
      rcases mem_keys_put hl with rfl | hl
      · exact hgt
      · exact hfirst l hl

theorem eq_or_lt_of_get? {first : String × α} (hsorted : Sorted (first :: rest))
    (h : get? key (first :: rest) = some value) : first.1 = key ∨ first.1 < key := by
  rcases List.mem_cons.mp (mem_keys_of_get? h) with heq | hlater
  · exact .inl heq.symm
  · exact .inr ((sorted_cons.mp hsorted).1 key hlater)

/-- Entries in order with the same look-ups are the same. -/
theorem eq_of_get?_eq {left right : Entries α} (hleft : left.Sorted) (hright : right.Sorted)
    (h : ∀ key, get? key left = get? key right) : left = right := by
  induction left generalizing right with
  | nil =>
    cases right with
    | nil => rfl
    | cons entry rest =>
      have hthere := h entry.1
      simp [get?] at hthere
  | cons entry left ih =>
    obtain ⟨k, v⟩ := entry
    have hk : get? k ((k, v) :: left) = some v := if_pos rfl
    cases right with
    | nil =>
      rw [h k] at hk
      cases hk
    | cons entry right =>
      obtain ⟨l, w⟩ := entry
      have hl : get? l ((l, w) :: right) = some w := if_pos rfl
      obtain ⟨hkfirst, hleftRest⟩ := sorted_cons.mp hleft
      obtain ⟨hlfirst, hrightRest⟩ := sorted_cons.mp hright
      -- Either key is one of the other's keys, so neither can be before the other.
      have hle : l = k ∨ l < k := eq_or_lt_of_get? hright ((h k).symm.trans hk)
      have hge : k = l ∨ k < l := eq_or_lt_of_get? hleft ((h l).trans hl)
      obtain rfl : k = l := by
        rcases hle with heq | hlt
        · exact heq.symm
        · rcases hge with heq | hgt
          · exact heq
          · exact absurd (String.lt_trans hlt hgt) (String.lt_irrefl l)
      obtain rfl : v = w := Option.some.inj (hk.symm.trans ((h k).trans hl))
      have hrest : ∀ key, get? key left = get? key right := by
        intro key
        by_cases hkey : k = key
        · subst hkey
          rw [get?_eq_none_of_lt hkfirst, get?_eq_none_of_lt hlfirst]
        · have hsame := h key
          rwa [get?, get?, if_neg hkey, if_neg hkey] at hsame
      rw [ih hleftRest hrightRest hrest]

theorem put_eq_self (hsorted : entries.Sorted) (h : entries.get? key = some value) :
    entries.put key value = entries := by
  refine eq_of_get?_eq (sorted_put key value hsorted) hsorted fun sought => ?_
  rw [get?_put]
  split
  next hkey => rw [← hkey, h]
  next => rfl

end Entries

namespace Json

theorem canonicalEntries_iff {entries : Entries Json} :
    CanonicalEntries entries ↔ ∀ key value, (key, value) ∈ entries → value.Canonical := by
  induction entries with
  | nil => exact iff_of_true trivial nofun
  | cons entry rest ih =>
    obtain ⟨k, v⟩ := entry
    rw [CanonicalEntries, ih]
    constructor
    · rintro ⟨hfirst, hrest⟩ key value hmem
      rcases List.mem_cons.mp hmem with heq | hlater
      · cases heq
        exact hfirst
      · exact hrest key value hlater
    · intro h
      exact ⟨h k v List.mem_cons_self, fun key value hmem => h key value (List.mem_cons_of_mem _ hmem)⟩

variable {v w : Json} {key : String} {entries : Entries Json}

theorem Canonical.get? (hv : v.Canonical) (h : v.get? key = some w) : w.Canonical := by
  cases v with
  | object entries =>
    have hmem : (key, w) ∈ entries := Entries.mem_of_get? h
    exact canonicalEntries_iff.mp hv.2 key w hmem
  | null => cases h
  | bool => cases h
  | number => cases h
  | string => cases h
  | array => cases h

theorem Canonical.put (hentries : (object entries).Canonical) (hw : w.Canonical) (key : String) :
    (object (entries.put key w)).Canonical := by
  refine ⟨Entries.sorted_put key w hentries.1, canonicalEntries_iff.mpr fun k v hmem => ?_⟩
  rcases Entries.mem_put hmem with heq | hold
  · cases heq
    exact hw
  · exact canonicalEntries_iff.mp hentries.2 k v hold

theorem sizeOf_lt_of_get? (h : v.get? key = some w) : sizeOf w < sizeOf v := by
  cases v with
  | object entries =>
    have hmem : (key, w) ∈ entries := Entries.mem_of_get? h
    have hlt := List.sizeOf_lt_of_mem hmem
    simp only [Prod.mk.sizeOf_spec] at hlt
    simp only [object.sizeOf_spec]
    omega
  | null => cases h
  | bool => cases h
  | number => cases h
  | string => cases h
  | array => cases h

/-- What holds of a value where it holds of all that its keys lead to holds of every value. -/
theorem inductionOn_get? {motive : Json → Prop} (v : Json)
    (step : ∀ v, (∀ key w, v.get? key = some w → motive w) → motive v) : motive v :=
  step v fun _ w _ => inductionOn_get? w step
termination_by sizeOf v
decreasing_by exact sizeOf_lt_of_get? ‹_›

end Json

end PagedFind
