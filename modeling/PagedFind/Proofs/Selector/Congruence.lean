import PagedFind.Proofs.Json.Alike
import PagedFind.Selector.Matching
import PagedFind.Regex.Match

namespace PagedFind

namespace Json

section

variable {f g : Json → Bool} {as bs : List Json}

theorem any_congr_of_alike (hfg : ∀ {a b}, Alike a b → f a = g b) (h : List.Forall₂ Alike as bs) :
    as.any f = bs.any g := by
  induction h with
  | nil => rfl
  | cons hab _ ih => rw [List.any_cons, List.any_cons, hfg hab, ih]

theorem all_congr_of_alike (hfg : ∀ {a b}, Alike a b → f a = g b) (h : List.Forall₂ Alike as bs) :
    as.all f = bs.all g := by
  induction h with
  | nil => rfl
  | cons hab _ ih => rw [List.all_cons, List.all_cons, hfg hab, ih]

theorem isEmpty_congr_of_alike (h : List.Forall₂ Alike as bs) : as.isEmpty = bs.isEmpty := by
  cases h with
  | nil => rfl
  | cons _ _ => rfl

end

theorem alike_entries_get? {as bs : List (String × Json)} (keys : as.map Prod.fst = bs.map Prod.fst)
    (values : List.Forall₂ Alike (as.map Prod.snd) (bs.map Prod.snd)) (key : String) :
    Option.Rel Alike (Entries.get? key as) (Entries.get? key bs) := by
  induction as generalizing bs with
  | nil =>
    obtain rfl := List.map_eq_nil_iff.mp keys.symm
    exact .none
  | cons a as ih =>
    obtain ⟨b, bs, rfl⟩ := List.exists_cons_of_length_pos (l := bs) (by
      have hlength := congrArg List.length keys
      simp only [List.length_map, List.length_cons] at hlength
      omega)
    obtain ⟨hkey, hkeys⟩ := List.cons.inj keys
    obtain ⟨hvalue, hvalues⟩ := List.forall₂_cons.mp values
    obtain ⟨k, v⟩ := a
    obtain ⟨l, w⟩ := b
    obtain rfl : k = l := hkey
    simp only [Entries.get?]
    split
    · exact .some hvalue
    · exact ih hkeys hvalues

namespace Alike

variable {a b : Json}

theorem get? (h : Alike a b) (key : String) : Option.Rel Alike (a.get? key) (b.get? key) := by
  cases h with
  | object keys values => exact alike_entries_get? keys values key
  | null | bool | number | string | array => exact .none

/-- Where a chain of keys leads in one of two values that are alike, it leads in the other. -/
theorem follow (h : Alike a b) (keys : List String) :
    Option.Rel Alike (Json.follow keys a) (Json.follow keys b) := by
  induction keys generalizing a b with
  | nil => exact .some h
  | cons key keys ih =>
    have hget := h.get? key
    simp only [Json.follow]
    generalize a.get? key = v at hget
    generalize b.get? key = w at hget
    cases hget with
    | none => exact .none
    | some hvw => exact ih hvw

theorem isObject_eq (h : Alike a b) : a.isObject = b.isObject := by
  cases h <;> rfl

theorem isOperatorObject_eq (h : Alike a b) : a.isOperatorObject = b.isOperatorObject := by
  have operators (entries : List (String × Json)) : (Json.object entries).isOperatorObject
      = (!(entries.map Prod.fst).isEmpty && (entries.map Prod.fst).all SelectorKey.isOperator) := by
    cases entries with
    | nil => rfl
    | cons entry rest => simp [isOperatorObject, Function.comp_def]
  cases h with
  | object keys _ => rw [operators, operators, keys]
  | null | bool | number | string | array => rfl

end Alike

theorem rel_bind_at? {v w : Option Json} (h : Option.Rel Alike v w) (path : String) :
    Option.Rel Alike (v.bind (at? path)) (w.bind (at? path)) := by
  cases h with
  | none => exact .none
  | some hvw => exact hvw.follow (pathKeys path)

end Json

open Json

theorem Operator.holds_congr [Regex.Engine] (op : Operator) {a b : Json} (hab : Alike a b) {v w : Option Json}
    (hvw : Option.Rel Alike v w) : op.holds a v = op.holds b w := by
  cases op with
  | compare c =>
    cases hvw with
    | none => rfl
    | some hvalue => simp only [holds, Option.any_some, hvalue.collate_congr hab]
  | present =>
    have hbool : a.bool? = b.bool? := by cases hab <;> rfl
    have hsome : v.isSome = w.isSome := by cases hvw <;> rfl
    simp only [holds, hbool, hsome]
  | pattern =>
    cases hvw with
    | none => rfl
    | some hvalue => cases hvalue <;> cases hab <;> rfl

namespace Json

section

variable [Regex.Engine]

mutual

/-- Selector documents that are alike select the same of values that are alike. -/
theorem selects_congr : ∀ {s t : Json} (_ : Alike s t) {v w : Option Json} (_ : Option.Rel Alike v w),
    selects s v = selects t w
  | .object _, _, .object keys values, _, _, hvw => selectsEntries_congr keys values hvw
  | _, _, .null, _, _, _ => rfl
  | _, _, .bool _, _, _, _ => rfl
  | _, _, .number _, _, _, _ => rfl
  | _, _, .string _, _, _, _ => rfl
  | _, _, .array _, _, _, _ => rfl

theorem selectsEntries_congr : ∀ {es fs : List (String × Json)} (_ : es.map Prod.fst = fs.map Prod.fst)
    (_ : List.Forall₂ Alike (es.map Prod.snd) (fs.map Prod.snd)) {v w : Option Json}
    (_ : Option.Rel Alike v w), selectsEntries es v = selectsEntries fs w
  | [], [], _, _, _, _, _ => rfl
  | (_, _) :: _, (_, _) :: _, keys, values, _, _, hvw => by
    obtain ⟨hkey, hkeys⟩ := List.cons.inj keys
    obtain ⟨hvalue, hvalues⟩ := List.forall₂_cons.mp values
    rw [selectsEntries, selectsEntries, selectsEntry_congr hkey hvalue hvw,
      selectsEntries_congr hkeys hvalues hvw]

theorem selectsEntry_congr : ∀ {e f : String × Json} (_ : e.1 = f.1) (_ : Alike e.2 f.2) {v w : Option Json}
    (_ : Option.Rel Alike v w), selectsEntry e v = selectsEntry f w
  | (k, arg), (l, arg'), hkey, hvalue, v, w, hvw => by
    obtain rfl : k = l := hkey
    simp only [selectsEntry]
    cases SelectorKey.ofString k with
    | combine how =>
      cases how with
      | all => exact selectsAll_congr hvalue hvw
      | any => exact selectsAny_congr hvalue hvw
    | arrayMatch mode =>
      -- Both runs read the argument in the same way, as a selector or as a value, before they ask the items.
      have hitem {a b : Json} (hab : Alike a b) :
          (if arg.isObject then selects arg (some a) else valuesEqual a arg)
            = if arg'.isObject then selects arg' (some b) else valuesEqual b arg' := by
        rw [← hvalue.isObject_eq, selects_congr hvalue (.some hab), valuesEqual, valuesEqual,
          hab.collate_congr hvalue]
      cases hvw with
      | none => cases mode <;> rfl
      | some hab =>
        cases hab with
        | array items =>
          cases mode with
          | some => exact any_congr_of_alike hitem items
          | every => simp only [isEmpty_congr_of_alike items, all_congr_of_alike hitem items]
        | null | bool | number | string | object => cases mode <;> rfl
    | operator op => exact op.holds_congr hvalue hvw
    | unknown => rfl
    | field path =>
      have hfield := rel_bind_at? hvw path
      simp only [hvalue.isOperatorObject_eq, selects_congr hvalue hfield]
      generalize v.bind (at? path) = v' at hfield
      generalize w.bind (at? path) = w' at hfield
      cases hfield with
      | none => rfl
      | some hab => simp only [Option.any_some, valuesEqual, hab.collate_congr hvalue]

theorem selectsAll_congr : ∀ {s t : Json} (_ : Alike s t) {v w : Option Json} (_ : Option.Rel Alike v w),
    selectsAll s v = selectsAll t w
  | .array _, _, .array items, _, _, hvw => selectsAllOf_congr items hvw
  | _, _, .null, _, _, _ => rfl
  | _, _, .bool _, _, _, _ => rfl
  | _, _, .number _, _, _, _ => rfl
  | _, _, .string _, _, _, _ => rfl
  | _, _, .object _ _, _, _, _ => rfl

theorem selectsAllOf_congr : ∀ {ss ts : List Json} (_ : List.Forall₂ Alike ss ts) {v w : Option Json}
    (_ : Option.Rel Alike v w), selectsAllOf ss v = selectsAllOf ts w
  | [], [], _, _, _, _ => rfl
  | _ :: _, _ :: _, .cons hst hrest, _, _, hvw => by
    rw [selectsAllOf, selectsAllOf, selects_congr hst hvw, selectsAllOf_congr hrest hvw]

theorem selectsAny_congr : ∀ {s t : Json} (_ : Alike s t) {v w : Option Json} (_ : Option.Rel Alike v w),
    selectsAny s v = selectsAny t w
  | .array _, _, .array items, _, _, hvw => selectsAnyOf_congr items hvw
  | _, _, .null, _, _, _ => rfl
  | _, _, .bool _, _, _, _ => rfl
  | _, _, .number _, _, _, _ => rfl
  | _, _, .string _, _, _, _ => rfl
  | _, _, .object _ _, _, _, _ => rfl

theorem selectsAnyOf_congr : ∀ {ss ts : List Json} (_ : List.Forall₂ Alike ss ts) {v w : Option Json}
    (_ : Option.Rel Alike v w), selectsAnyOf ss v = selectsAnyOf ts w
  | [], [], _, _, _, _ => rfl
  | _ :: _, _ :: _, .cons hst hrest, _, _, hvw => by
    rw [selectsAnyOf, selectsAnyOf, selects_congr hst hvw, selectsAnyOf_congr hrest hvw]

end

/-- Whether a document matches a selector document depends on both only up to what collation tells apart: they may
be written in any way that keeps their structure and the binary64 images of their numbers. -/
theorem isMatch_congr (s t d e : Json) :
    (s.valuesEqual t = true → d.valuesEqual e = true → s.isMatch d = t.isMatch e) ∧
      (Alike s t → Alike d e → s.isMatch d = t.isMatch e) := by
  have halike (hst : Alike s t) (hde : Alike d e) : s.isMatch d = t.isMatch e :=
    selects_congr hst (.some hde)
  exact ⟨fun hst hde => halike (valuesEqual_iff_alike.mp hst) (valuesEqual_iff_alike.mp hde), halike⟩

end

/-- A shift on day one, with and without a point in the selector and in the document. -/
theorem isMatch_congr_one :
    let one : Json := .number (.double ⟨false, Nat.pow 2 52, 1022, by decide, by decide, .inl (by decide)⟩)
    let selector (n : Json) : Json :=
      .object [("shifts", .object [("$elemMatch", .object [("day", n), ("hours", .object [("$gt", n)])])])]
    let doc (n : Json) : Json :=
      .object [("shifts", .array [.object [("day", n), ("hours", .array [n, .nat 8])]])]
    (selector (.nat 1)).valuesEqual (selector one) = true ∧ (doc (.nat 1)).valuesEqual (doc one) = true ∧
      (selector one).isMatch (doc (.nat 1)) = true ∧ (selector (.nat 1)).isMatch (doc one) = true := by
  intro one selector doc
  have hselector : (selector (.nat 1)).valuesEqual (selector one) = true := by decide +kernel
  have hdoc : (doc (.nat 1)).valuesEqual (doc one) = true := by decide +kernel
  have hmatch : (selector (.nat 1)).isMatch (doc (.nat 1)) = true := by decide +kernel
  have hself (v : Json) : v.valuesEqual v = true := beq_iff_eq.mpr Std.ReflCmp.compare_self
  have hleft := (isMatch_congr _ _ _ _).1 hselector (hself (doc (.nat 1)))
  have hright := (isMatch_congr _ _ _ _).1 (hself (selector (.nat 1))) hdoc
  exact ⟨hselector, hdoc, hleft.symm.trans hmatch, hright.symm.trans hmatch⟩

end Json

end PagedFind
