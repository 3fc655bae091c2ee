import PagedFind.Text.Basic
import Mathlib.Data.List.Basic

namespace PagedFind.Text

theorem dropStart?_eq_some_iff {start text rest : List Char} :
    dropStart? start text = some rest ↔ text = start ++ rest := by
  fun_induction dropStart? start text with
  | case1 text => simp
  | case2 => simp
  | case3 start c text ih => simp [ih]
  | case4 p start c text hne => simp [Ne.symm hne]

theorem split_ne_nil (sep : Char) (text : List Char) : split sep text ≠ [] := by
  cases text with
  | nil => exact List.cons_ne_nil _ _
  | cons c rest =>
    rw [Text.split]
    split
    · exact List.cons_ne_nil _ _
    · split <;> exact List.cons_ne_nil _ _

variable {sep : Char}

theorem cutFirst_append {before : List Char} (h : sep ∉ before) (after : List Char) :
    cutFirst sep (before ++ sep :: after) = some (before, after) := by
  induction before with
  | nil => simp [cutFirst]
  | cons c before ih =>
    have hne : c ≠ sep := fun heq => h (heq ▸ List.mem_cons_self)
    rw [List.cons_append, cutFirst, if_neg hne, ih fun hmem => h (List.mem_cons_of_mem c hmem)]
    rfl

theorem split_sep (rest : List Char) : split sep (sep :: rest) = [] :: split sep rest := by
  rw [split, if_pos rfl]

theorem split_cons {c : Char} (hc : c ≠ sep) {rest part : List Char} {parts : List (List Char)}
    (h : split sep rest = part :: parts) : split sep (c :: rest) = (c :: part) :: parts := by
  rw [split, if_neg hc, h]

theorem split_append (before after : List Char) :
    split sep (before ++ sep :: after) = split sep before ++ split sep after := by
  induction before with
  | nil => exact split_sep after
  | cons c before ih =>
    by_cases hc : c = sep
    · subst hc
      rw [List.cons_append, split_sep, ih, split_sep]
      rfl
    · obtain ⟨part, parts, hparts⟩ := List.exists_cons_of_ne_nil (split_ne_nil sep before)
      rw [hparts] at ih
      rw [List.cons_append, split_cons hc ih, split_cons hc hparts]
      rfl

theorem split_of_not_mem {part : List Char} (h : sep ∉ part) : split sep part = [part] := by
  induction part with
  | nil => rfl
  | cons c part ih =>
    have hc : c ≠ sep := fun heq => h (heq ▸ List.mem_cons_self)
    exact split_cons hc (ih fun hmem => h (List.mem_cons_of_mem c hmem))

theorem mem_split {text part : List Char} (h : part ∈ split sep text) : sep ∉ part ∧ part ⊆ text := by
  induction text generalizing part with
  | nil =>
    obtain rfl := List.mem_singleton.mp h
    exact ⟨List.not_mem_nil, List.Subset.refl _⟩
  | cons c rest ih =>
    by_cases hc : c = sep
    · subst hc
      rw [split_sep] at h
      rcases List.mem_cons.mp h with rfl | hmem
      · exact ⟨List.not_mem_nil, List.nil_subset _⟩
      · exact ⟨(ih hmem).1, List.subset_cons_of_subset c (ih hmem).2⟩
    · obtain ⟨first, parts, hparts⟩ := List.exists_cons_of_ne_nil (split_ne_nil sep rest)
      rw [split_cons hc hparts] at h
      rw [hparts] at ih
      rcases List.mem_cons.mp h with rfl | hmem
      · obtain ⟨hnone, hsubset⟩ := ih List.mem_cons_self
        refine ⟨fun hmem => ?_, List.cons_subset_cons c hsubset⟩
        rcases List.mem_cons.mp hmem with heq | hmem
        · exact hc heq.symm
        · exact hnone hmem
      · obtain ⟨hnone, hsubset⟩ := ih (List.mem_cons_of_mem first hmem)
        exact ⟨hnone, List.subset_cons_of_subset c hsubset⟩

theorem joinWith_cons {part : List Char} {parts : List (List Char)} (h : parts ≠ []) :
    joinWith [sep] (part :: parts) = part ++ sep :: joinWith [sep] parts := by
  obtain ⟨next, rest, rfl⟩ := List.exists_cons_of_ne_nil h
  simp [joinWith]

theorem joinWith_split (text : List Char) : joinWith [sep] (split sep text) = text := by
  induction text with
  | nil => rfl
  | cons c rest ih =>
    by_cases hc : c = sep
    · subst hc
      rw [split_sep, joinWith_cons (split_ne_nil c rest), ih]
      rfl
    · obtain ⟨part, parts, hparts⟩ := List.exists_cons_of_ne_nil (split_ne_nil sep rest)
      rw [hparts] at ih
      rw [split_cons hc hparts, ← ih]
      cases parts with
      | nil => rfl
      | cons next parts => rfl

/-- A text that is put together of parts has the parts of each of them. -/
theorem split_joinWith_eq_flatMap {parts : List (List Char)} (hne : parts ≠ []) :
    split sep (joinWith [sep] parts) = parts.flatMap (split sep) := by
  induction parts with
  | nil => exact absurd rfl hne
  | cons part parts ih =>
    cases parts with
    | nil => exact (List.append_nil _).symm
    | cons next parts =>
      have hrest := ih (List.cons_ne_nil _ _)
      rw [joinWith_cons (List.cons_ne_nil _ _), split_append, hrest]
      rfl

/-- Parts without separators are found again in the text that is put together of them. -/
theorem split_joinWith {parts : List (List Char)} (hne : parts ≠ []) (h : ∀ part ∈ parts, sep ∉ part) :
    split sep (joinWith [sep] parts) = parts := by
  rw [split_joinWith_eq_flatMap hne, List.flatMap_congr fun part hpart => split_of_not_mem (h part hpart),
    List.flatMap_singleton']

theorem split_injective {text text' : List Char} (h : split sep text = split sep text') : text = text' := by
  rw [← @joinWith_split sep text, h, joinWith_split]

theorem splitOn_injective {text text' : String} (h : splitOn sep text = splitOn sep text') : text = text' :=
  String.toList_injective (split_injective ((List.map_inj_right fun _ _ => String.ofList_injective).mp h))

theorem splitOn_join {mark : String} (hmark : mark.toList = [sep]) {parts : List String} (hne : parts ≠ []) :
    splitOn sep (join mark parts) = parts.flatMap (splitOn sep) := by
  have hchars : parts.map String.toList ≠ [] := mt List.map_eq_nil_iff.mp hne
  rw [splitOn, join, String.toList_ofList, hmark, split_joinWith_eq_flatMap hchars, List.flatMap_map, List.map_flatMap]
  rfl

theorem splitOn_of_not_mem {part : String} (h : sep ∉ part.toList) : splitOn sep part = [part] := by
  rw [splitOn, split_of_not_mem h, List.map_singleton, String.ofList_toList]

end PagedFind.Text
