import PagedFind.Proofs.Json.Alike
import PagedFind.Proofs.Selector.Faults
import Mathlib.Logic.ExistsUnique
import PagedFind.Regex.Match

namespace PagedFind

namespace Comparison

def strict : List Comparison := [.less, .equal, .greater]

def ofOrdering : Ordering → Comparison
  | .lt => .less
  | .eq => .equal
  | .gt => .greater

/-- A bound from below. -/
def IsLower (c : Comparison) : Prop := c = .greater ∨ c = .greaterEqual

def IsUpper (c : Comparison) : Prop := c = .less ∨ c = .lessEqual

variable {c : Comparison} {order : Ordering} {v a b : Json}

theorem ofOrdering_mem_strict (order : Ordering) : ofOrdering order ∈ strict := by
  cases order <;> decide

theorem holds_iff_eq_ofOrdering (hc : c ∈ strict) : c.holds order = true ↔ c = ofOrdering order := by
  cases order <;> revert hc <;> cases c <;> decide

theorem holds_notEqual : holds .notEqual order = !holds .equal order := rfl

theorem holds_greaterEqual : holds .greaterEqual order = (holds .greater order || holds .equal order) := by
  cases order <;> rfl

theorem holds_lessEqual : holds .lessEqual order = (holds .less order || holds .equal order) := by
  cases order <;> rfl

theorem holds_of_lower (hc : c.IsLower) (hab : a.collate b ≠ .gt) (h : c.holds (v.collate b) = true) :
    c.holds (v.collate a) = true := by
  have hfits := Json.collate_fits a b v
  rw [holds_iff_relates, Json.collate_swap] at h ⊢
  rcases hc with rfl | rfl
  · have hbv : b.collate v = .lt := Ordering.swap_eq_gt.mp h
    have hav := (hfits.not_gt_trans hab (by rw [hbv]; decide)).2 (.inr hbv)
    exact Ordering.swap_eq_gt.mpr hav
  · have hbv : b.collate v ≠ .gt := mt Ordering.swap_eq_lt.mpr h
    have hav := (hfits.not_gt_trans hab hbv).1
    exact mt Ordering.swap_eq_lt.mp hav

theorem holds_of_upper (hc : c.IsUpper) (hab : a.collate b ≠ .gt) (h : c.holds (v.collate a) = true) :
    c.holds (v.collate b) = true := by
  have hfits := Json.collate_fits v a b
  rw [holds_iff_relates] at h ⊢
  rcases hc with rfl | rfl
  · have hva : v.collate a = .lt := h
    exact (hfits.not_gt_trans (by rw [hva]; decide) hab).2 (.inl hva)
  · have hva : v.collate a ≠ .gt := h
    exact (hfits.not_gt_trans hva hab).1

end Comparison

namespace Quantifier

variable {mode : Quantifier} {items : List Json} {p q : Json → Prop}

theorem Over.imp (h : mode.Over items p) (hpq : ∀ item, p item → q item) : mode.Over items q := by
  cases mode with
  | some =>
    obtain ⟨item, hmem, hitem⟩ := h
    exact ⟨item, hmem, hpq item hitem⟩
  | every => exact ⟨h.1, fun item hmem => hpq item (h.2 item hmem)⟩

theorem Over.exists (h : mode.Over items p) : ∃ item, p item := by
  cases mode with
  | some =>
    obtain ⟨item, -, hitem⟩ := h
    exact ⟨item, hitem⟩
  | every =>
    obtain ⟨item, hmem⟩ := List.exists_mem_of_ne_nil items h.1
    exact ⟨item, h.2 item hmem⟩

end Quantifier

namespace Expr

section

variable [Regex.Engine]

/-- Whether a comparison of a field, as its document has it, holds where a current value is asked. -/
def asks (field : String) (value : Option Json) (c : Comparison) (operand : Json) : Bool :=
  (compare c field operand).document.selects value

def between (field : String) (low high : Json) : Expr := allOf [greater field low, less field high]

/-- A selector can be made of the expression, and has its document. -/
def IsSelectable (e : Expr) : Prop := ∃ selector, Selector.select [e] = .ok selector ∧ selector.document = e.document

/-- How the comparisons of a field fit together where a current value is asked, be it a document or an item. -/
structure RangesFit (field : String) (value : Option Json) : Prop where
  missing : addressed field value = none → ∀ c operand, asks field value c operand = false
  exactlyOne : addressed field value ≠ none →
    ∀ operand, ∃! c, c ∈ Comparison.strict ∧ asks field value c operand = true
  notEqual : addressed field value ≠ none →
    ∀ operand, asks field value .notEqual operand = !asks field value .equal operand
  greaterEqual : ∀ operand,
    asks field value .greaterEqual operand = (asks field value .greater operand || asks field value .equal operand)
  lessEqual : ∀ operand,
    asks field value .lessEqual operand = (asks field value .less operand || asks field value .equal operand)
  lower : ∀ c a b, c.IsLower → a.collate b ≠ .gt → asks field value c b = true → asks field value c a = true
  upper : ∀ c a b, c.IsUpper → a.collate b ≠ .gt → asks field value c a = true → asks field value c b = true
  empty : ∀ a b, a.collate b ≠ .gt → (between field b a).document.selects value = false

/-- How the comparisons of a field fit together where the items of an array are asked: they are asked of the items one
by one, a wider range holds of no fewer arrays, and an empty one of none. -/
structure ItemRangesFit (array : String) (mode : Quantifier) (field : String) (value : Option Json) : Prop where
  items : ∀ c operand, (arrayMatch array mode (compare c field operand)).document.selects value = true ↔
    ∃ items, addressed array value = some (.array items) ∧
      mode.Over items fun item => asks field (some item) c operand = true
  lower : ∀ c a b, c.IsLower → a.collate b ≠ .gt →
    (arrayMatch array mode (compare c field b)).document.selects value = true →
      (arrayMatch array mode (compare c field a)).document.selects value = true
  upper : ∀ c a b, c.IsUpper → a.collate b ≠ .gt →
    (arrayMatch array mode (compare c field a)).document.selects value = true →
      (arrayMatch array mode (compare c field b)).document.selects value = true
  empty : ∀ a b, a.collate b ≠ .gt → (arrayMatch array mode (between field b a)).document.selects value = false

variable {field array : String} {value : Option Json} {mode : Quantifier}

theorem asks_eq_holds (hplain : SelectorKey.isOperator field = false) (c : Comparison) (operand : Json) :
    asks field value c operand = (Operator.compare c).holds operand (addressed field value) := by
  have hplains : (compare c field operand).PlainFields := hplain
  rw [Bool.eq_iff_iff, asks, selects_document _ hplains, Operator.holds_iff_accepts]
  rfl

theorem asks_of_missing (hplain : SelectorKey.isOperator field = false) (hmissing : addressed field value = none)
    (c : Comparison) (operand : Json) : asks field value c operand = false := by
  rw [asks_eq_holds hplain, hmissing]
  rfl

theorem asks_of_found (hplain : SelectorKey.isOperator field = false) {v : Json}
    (hfound : addressed field value = some v) (c : Comparison) (operand : Json) :
    asks field value c operand = c.holds (v.collate operand) := by
  rw [asks_eq_holds hplain, hfound]
  rfl

theorem selects_between (low high : Json) :
    (between field low high).document.selects value =
      (asks field value .greater low && asks field value .less high) := by
  have hchildren : (between field low high).document =
      .object [("$and", .array [(greater field low).document, (less field high).document])] := rfl
  rw [hchildren, selects_single]
  show (asks field value .greater low && (asks field value .less high && true)) = _
  rw [Bool.and_true]

theorem rangesFit_of_missing (hplain : SelectorKey.isOperator field = false)
    (hmissing : addressed field value = none) : RangesFit field value := by
  have hasks := asks_of_missing hplain hmissing
  have hnone {c : Comparison} {operand : Json} : asks field value c operand ≠ true := by
    rw [hasks]
    exact Bool.false_ne_true
  exact {
    missing := fun _ => hasks
    exactlyOne := fun hfound => absurd hmissing hfound
    notEqual := fun hfound => absurd hmissing hfound
    greaterEqual := fun operand => by rw [hasks, hasks, hasks, Bool.or_self]
    lessEqual := fun operand => by rw [hasks, hasks, hasks, Bool.or_self]
    lower := fun c a b _ _ h => absurd h hnone
    upper := fun c a b _ _ h => absurd h hnone
    empty := fun a b _ => by rw [selects_between, hasks, Bool.false_and] }

theorem rangesFit_of_found (hplain : SelectorKey.isOperator field = false) {v : Json}
    (hfound : addressed field value = some v) : RangesFit field value := by
  have hasks := asks_of_found hplain hfound
  have hone (operand : Json) : ∃! c, c ∈ Comparison.strict ∧ c.holds (v.collate operand) = true := by
    have hmem := Comparison.ofOrdering_mem_strict (v.collate operand)
    refine ⟨_, ⟨hmem, (Comparison.holds_iff_eq_ofOrdering hmem).mpr rfl⟩, ?_⟩
    rintro c ⟨hc, h⟩
    exact (Comparison.holds_iff_eq_ofOrdering hc).mp h
  -- What is above `b` is above `a`, and so it is not below `a`.
  have hempty (a b : Json) (hab : a.collate b ≠ .gt) (hgreater : Comparison.greater.holds (v.collate b) = true) :
      Comparison.less.holds (v.collate a) = false := by
    have habove := Comparison.holds_of_lower (.inl rfl) hab hgreater
    have horder : v.collate a = .gt := Comparison.holds_iff_relates.mp habove
    rw [horder]
    rfl
  simp only [← hasks] at hone hempty
  exact {
    missing := fun hmissing => absurd (hfound.symm.trans hmissing) (Option.some_ne_none v)
    exactlyOne := fun _ => hone
    notEqual := fun _ operand => by rw [hasks, hasks, Comparison.holds_notEqual]
    greaterEqual := fun operand => by rw [hasks, hasks, hasks, Comparison.holds_greaterEqual]
    lessEqual := fun operand => by rw [hasks, hasks, hasks, Comparison.holds_lessEqual]
    lower := fun c a b hc hab h => by
      rw [hasks] at h ⊢
      exact Comparison.holds_of_lower hc hab h
    upper := fun c a b hc hab h => by
      rw [hasks] at h ⊢
      exact Comparison.holds_of_upper hc hab h
    empty := fun a b hab => by
      rw [selects_between, Bool.and_eq_false_imp]
      exact hempty a b hab }

theorem rangesFit (hplain : SelectorKey.isOperator field = false) (value : Option Json) : RangesFit field value := by
  cases hvalue : addressed field value with
  | none => exact rangesFit_of_missing hplain hvalue
  | some v => exact rangesFit_of_found hplain hvalue

theorem selects_arrayMatch_document (harray : SelectorKey.isOperator array = false) (inner : Expr) :
    (arrayMatch array mode inner).document.selects value = true ↔
      ∃ items, addressed array value = some (.array items) ∧
        mode.Over items fun item => inner.document.selects (some item) = true := by
  have hmode : (Json.object [(mode.keyword, inner.document)]).isOperatorObject = true := by
    cases mode <;> rfl
  rw [document, selects_keyed harray hmode, selects_arrayMatch]

/-- What follows of an item follows of an array match. -/
theorem selects_arrayMatch_imp (harray : SelectorKey.isOperator array = false) {inner inner' : Expr}
    (himp : ∀ item, inner.document.selects (some item) = true → inner'.document.selects (some item) = true)
    (h : (arrayMatch array mode inner).document.selects value = true) :
    (arrayMatch array mode inner').document.selects value = true := by
  obtain ⟨items, hitems, hover⟩ := (selects_arrayMatch_document harray inner).mp h
  exact (selects_arrayMatch_document harray inner').mpr ⟨items, hitems, hover.imp himp⟩

theorem itemRangesFit (hplain : SelectorKey.isOperator field = false) (harray : SelectorKey.isOperator array = false)
    (mode : Quantifier) (value : Option Json) : ItemRangesFit array mode field value := by
  have hfit (item : Json) : RangesFit field (some item) := rangesFit hplain (some item)
  exact {
    items := fun c operand => selects_arrayMatch_document harray _
    lower := fun c a b hc hab => selects_arrayMatch_imp harray fun item => (hfit item).lower c a b hc hab
    upper := fun c a b hc hab => selects_arrayMatch_imp harray fun item => (hfit item).upper c a b hc hab
    empty := fun a b hab => by
      rw [Bool.eq_false_iff]
      intro h
      obtain ⟨items, -, hover⟩ := (selects_arrayMatch_document harray _).mp h
      obtain ⟨item, hitem⟩ := hover.exists
      rw [(hfit item).empty a b hab] at hitem
      cases hitem }

theorem isSelectable_of_check {e : Expr} (h : e.check false = .ok ()) : e.IsSelectable := by
  obtain ⟨selector, hselector⟩ := Selector.exists_ofExpr?_iff.mpr h
  refine ⟨selector, hselector, ?_⟩
  rw [Selector.document, Selector.root_of_ofExpr? hselector]

variable {inside : Bool}

theorem check_compare (hplaced : field = "" → inside = true) (c : Comparison) (operand : Json) :
    (compare c field operand).check inside = .ok () := check_of_placed hplaced nofun

theorem check_between (hplaced : field = "" → inside = true) (low high : Json) :
    (between field low high).check inside = .ok () := by
  have hlow : (greater field low).check inside = .ok () := check_compare hplaced .greater low
  have hhigh : (less field high).check inside = .ok () := check_compare hplaced .less high
  simp only [between, allOf, check, checkAll, hlow, hhigh]

theorem check_arrayMatch {inner : Expr} (harray : array ≠ "") (hinner : inner.isEmptyCombination = false)
    (h : inner.check true = .ok ()) : (arrayMatch array mode inner).check false = .ok () := by
  rw [check_arrayMatch_of_placed fun hunnamed => absurd hunnamed harray, hinner, if_neg Bool.false_ne_true, h]

/-- The comparisons of a field whose name does not begin like an operator fit together wherever they are asked: of a
document, or of the current item inside an array match, where the item itself may be compared. Selectors can be made
of them all. -/
theorem ranges_fit (field : String) (hplain : SelectorKey.isOperator field = false) :
    (field ≠ "" → (∀ c operand, (compare c field operand).IsSelectable) ∧
      ∀ a b, (between field b a).IsSelectable) ∧
    (∀ value, RangesFit field value) ∧
    ∀ array mode, SelectorKey.isOperator array = false →
      (array ≠ "" → (∀ c operand, (arrayMatch array mode (compare c field operand)).IsSelectable) ∧
        ∀ a b, (arrayMatch array mode (between field b a)).IsSelectable) ∧
      ∀ value, ItemRangesFit array mode field value := by
  have hcompare (c : Comparison) (operand : Json) : (compare c field operand).check true = .ok () :=
    check_compare (fun _ => rfl) c operand
  have hbetween (a b : Json) : (between field b a).check true = .ok () := check_between (fun _ => rfl) b a
  refine ⟨fun hnamed => ⟨?_, ?_⟩, rangesFit hplain, fun array mode harray => ⟨fun hnamed => ⟨?_, ?_⟩, ?_⟩⟩
  · exact fun c operand => isSelectable_of_check (check_compare (fun h => absurd h hnamed) c operand)
  · exact fun a b => isSelectable_of_check (check_between (fun h => absurd h hnamed) b a)
  · exact fun c operand => isSelectable_of_check (check_arrayMatch hnamed rfl (hcompare c operand))
  · exact fun a b => isSelectable_of_check (check_arrayMatch hnamed rfl (hbetween a b))
  · exact itemRangesFit hplain harray mode

end

/-- Who is older than twenty is older than ten, and no one is older than forty and younger than thirty; shifts that are
all more than one are all more than zero. -/
theorem ranges_fit_age :
    let doc : Json := .object [("age", .nat 30), ("shifts", .array [.nat 2, .nat 5])]
    let shifts (low : Nat) : Expr := arrayMatch "shifts" .every (greater "" (.nat low))
    asks "age" (some doc) .greater (.nat 20) = true ∧ asks "age" (some doc) .greater (.nat 10) = true ∧
      (between "age" (.nat 40) (.nat 30)).document.isMatch doc = false ∧
      (between "age" (.nat 40) (.nat 30)).IsSelectable ∧
      (shifts 1).document.isMatch doc = true ∧ (shifts 0).document.isMatch doc = true := by
  intro doc shifts
  obtain ⟨hselectable, hage, -⟩ := ranges_fit "age" rfl
  obtain ⟨-, -, hitems⟩ := ranges_fit "" rfl
  have holder : asks "age" (some doc) .greater (.nat 20) = true := by decide +kernel
  have hten : (Json.nat 10).collate (.nat 20) ≠ .gt := by decide +kernel
  have hthirty : (Json.nat 30).collate (.nat 40) ≠ .gt := by decide +kernel
  have hone : (shifts 1).document.isMatch doc = true := by decide +kernel
  have hzero : (Json.nat 0).collate (.nat 1) ≠ .gt := by decide +kernel
  have hshifts := (hitems "shifts" .every rfl).2 (some doc)
  exact ⟨holder, (hage (some doc)).lower _ _ _ (.inl rfl) hten holder, (hage (some doc)).empty _ _ hthirty,
    (hselectable (by decide)).2 _ _, hone, hshifts.lower _ _ _ (.inl rfl) hzero hone⟩

end Expr

end PagedFind
