import PagedFind.Proofs.Selector.Meaning
import PagedFind.Regex.Match

namespace PagedFind

def Operator.asked (op : Operator) (operand : Json) : Json := .object [(op.keyword, operand)]

namespace Expr

open Json (selects)

variable [Regex.Engine] {field : String} {op : Operator} {operand : Json} {doc : Json}

omit [Regex.Engine] in
theorem document_predicate (hfield : field ≠ "") :
    (predicate field op operand).document = .object [(field, op.asked operand)] := by
  rw [document, keyed, if_neg hfield, Operator.asked]

/-- A field that has the name of a comparison is none: the document itself is compared. -/
theorem selects_named_compare (c : Comparison) (value : Json) :
    selects (.object [((Operator.compare c).keyword, value)]) (some doc) = true ↔
      c.Relates (doc.collate value) := by
  rw [selects_operator, Operator.holds_iff_accepts]
  simp [Operator.Accepts]

theorem selects_named_arrayMatch (mode : Quantifier) :
    selects (.object [(mode.keyword, op.asked operand)]) (some doc) = true ↔
      ∃ items, doc = .array items ∧ mode.Over items fun item => op.Accepts operand (some item) := by
  have hinner : (predicate "" op operand).document = op.asked operand := rfl
  have hitem (item : Json) : selects (op.asked operand) (some item) = true ↔ op.Accepts operand (some item) := by
    rw [Operator.asked, selects_operator, Operator.holds_iff_accepts]
  rw [← hinner, selects_arrayMatch]
  simp only [hinner, hitem, Option.some.injEq]

/-- What is asked of any other field that begins like an operator holds of no document. -/
theorem selects_named_other (hfield : SelectorKey.isOperator field = true)
    (hcompare : ∀ c : Comparison, field ≠ (Operator.compare c).keyword)
    (hmode : ∀ mode : Quantifier, field ≠ mode.keyword) :
    selects (.object [(field, op.asked operand)]) (some doc) = false := by
  have hspelled := SelectorKey.spelled_ofString field
  rw [selects_single, Json.selectsEntry]
  cases hkey : SelectorKey.ofString field with
  | combine how => cases how <;> rfl
  | arrayMatch mode =>
    rw [hkey] at hspelled
    exact absurd hspelled (hmode mode)
  | operator named =>
    rw [hkey] at hspelled
    cases named with
    | compare c => exact absurd hspelled (hcompare c)
    | present => rfl
    | pattern => cases doc <;> rfl
  | unknown => rfl
  | field path =>
    rw [hkey] at hspelled
    rw [hspelled.2] at hfield
    cases hfield

theorem selects_named_plain (hnamed : field ≠ "") (hplain : SelectorKey.isOperator field = false) :
    selects (.object [(field, op.asked operand)]) (some doc) = true ↔ op.Accepts operand (doc.at? field) := by
  have hfields : (predicate field op operand).PlainFields := hplain
  rw [← document_predicate hnamed, selects_document _ hfields, Holds, addressed, if_neg hnamed]
  rfl

theorem check_predicate (hop : op ≠ .pattern) :
    (predicate field op operand).check false = .ok () ↔ field ≠ "" := by
  cases op with
  | pattern => exact absurd rfl hop
  | compare c => simp [check]
  | present => simp [check]

end Expr

namespace Selector

/-- A predicate may be asked of every field that has a name. It is asked of the value of that field, unless its name
begins like an operator: then the document itself is compared, or its items are asked, or no document matches. -/
theorem isMatch_predicate [Regex.Engine] (field : String) (op : Operator) (operand : Json) :
    (op ≠ .pattern → ((∃ selector, select [.predicate field op operand] = .ok selector) ↔ field ≠ "")) ∧
      ∀ selector, select [.predicate field op operand] = .ok selector → ∀ doc : Json,
        (SelectorKey.isOperator field = false →
          (selector.document.isMatch doc = true ↔ op.Accepts operand (doc.at? field))) ∧
        (∀ c : Comparison, field = (Operator.compare c).keyword →
          (selector.document.isMatch doc = true ↔ c.Relates (doc.collate (op.asked operand)))) ∧
        (∀ mode : Quantifier, field = mode.keyword →
          (selector.document.isMatch doc = true ↔ ∃ items, doc = .array items ∧
            mode.Over items fun item => op.Accepts operand (some item))) ∧
        (SelectorKey.isOperator field = true → (∀ c : Comparison, field ≠ (Operator.compare c).keyword) →
          (∀ mode : Quantifier, field ≠ mode.keyword) → selector.document.isMatch doc = false) := by
  refine ⟨fun hop => exists_ofExpr?_iff.trans (Expr.check_predicate hop), fun selector hselect doc => ?_⟩
  have hroot : selector.root = .predicate field op operand := root_of_ofExpr? hselect
  have hnamed : field ≠ "" := by
    rintro rfl
    have hchecked := selector.checked
    rw [hroot] at hchecked
    simp [Expr.check] at hchecked
  have hdocument : selector.document = .object [(field, op.asked operand)] := by
    rw [Selector.document, hroot, Expr.document_predicate hnamed]
  rw [Json.isMatch, hdocument]
  refine ⟨Expr.selects_named_plain hnamed, ?_, ?_, Expr.selects_named_other⟩
  · rintro c rfl
    exact Expr.selects_named_compare c _
  · rintro mode rfl
    exact Expr.selects_named_arrayMatch mode

/-- A first name after `Al`, and a price of three that is never found. -/
theorem isMatch_predicate_price :
    let named := Expr.greater "name.first" (.string "Al")
    let priced := Expr.equal "$price" (.nat 3)
    let doc : Json := .object [("$price", .nat 3), ("name", .object [("first", .string "Ann")])]
    (∃ selector, select [named] = .ok selector ∧ selector.document.isMatch doc = true) ∧
      ∃ selector, select [priced] = .ok selector ∧ selector.document.isMatch doc = false := by
  intro named priced doc
  have hnamed : Operator.Accepts (.compare .greater) (.string "Al") (doc.at? "name.first") := ⟨.string "Ann", rfl, rfl⟩
  have hcompare : ∀ c : Comparison, "$price" ≠ (Operator.compare c).keyword := by
    intro c
    cases c <;> decide
  have hmode : ∀ mode : Quantifier, "$price" ≠ mode.keyword := by
    intro mode
    cases mode <;> decide
  obtain ⟨haccepted, hread⟩ := isMatch_predicate "name.first" (.compare .greater) (.string "Al")
  obtain ⟨selector, hselect⟩ := (haccepted (by decide)).mpr (by decide)
  obtain ⟨haccepted', hread'⟩ := isMatch_predicate "$price" (.compare .equal) (.nat 3)
  obtain ⟨selector', hselect'⟩ := (haccepted' (by decide)).mpr (by decide)
  refine ⟨⟨selector, hselect, ?_⟩, selector', hselect', ?_⟩
  · exact ((hread selector hselect doc).1 rfl).mpr hnamed
  · exact (hread' selector' hselect' doc).2.2.2 rfl hcompare hmode

/-- A document without a field matches where a value of that field is asked for, and a document in which the field has
the value does not. -/
theorem isMatch_without_field :
    ∃ ne price, select [.equal "$ne" (.nat 1)] = .ok ne ∧ select [.equal "$price" (.nat 3)] = .ok price ∧
      (Json.object [("_id", .string "a")]).at? "$ne" = none ∧
      ne.document.isMatch (.object [("_id", .string "a")]) = true ∧
      (Json.object [("$price", .nat 3)]).at? "$price" = some (.nat 3) ∧
      price.document.isMatch (.object [("$price", .nat 3)]) = false :=
  ⟨⟨.equal "$ne" (.nat 1), rfl⟩, ⟨.equal "$price" (.nat 3), rfl⟩, rfl, rfl, rfl, by decide +kernel, rfl,
    by decide +kernel⟩

end Selector

end PagedFind
