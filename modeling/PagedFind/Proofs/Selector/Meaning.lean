import PagedFind.Proofs.Selector.Keys
import PagedFind.Selector.Document
import PagedFind.Regex.Match

namespace PagedFind

def Comparison.Relates : Comparison → Ordering → Prop
  | .equal, order => order = .eq
  | .notEqual, order => order ≠ .eq
  | .greater, order => order = .gt
  | .greaterEqual, order => order ≠ .lt
  | .less, order => order = .lt
  | .lessEqual, order => order ≠ .gt

theorem Comparison.holds_iff_relates {c : Comparison} {order : Ordering} :
    c.holds order = true ↔ c.Relates order := by
  cases c <;> cases order <;> simp [holds, Relates]

section

variable [Regex.Engine]

/-- What an operator says of a value that may be missing. -/
def Operator.Accepts (op : Operator) (operand : Json) (value : Option Json) : Prop :=
  match op with
  | .compare c => ∃ v, value = some v ∧ c.Relates (v.collate operand)
  | .present => operand = .bool value.isSome
  | .pattern => ∃ text sought search, value = some (.string text) ∧ operand = .string sought ∧
      Pattern.compile sought = .ok search ∧ search text = true

/-- Some item has a property; or every one, of at least one. -/
def Quantifier.Over (mode : Quantifier) (items : List Json) (property : Json → Prop) : Prop :=
  match mode with
  | .some => ∃ item ∈ items, property item
  | .every => items ≠ [] ∧ ∀ item ∈ items, property item

/-- The value that a field of the current value holds; the empty field is the current value itself. -/
def addressed (field : String) (value : Option Json) : Option Json :=
  if field = "" then value else value.bind (Json.at? field)

namespace Expr

mutual

/-- What an expression says of a current value that may be missing. -/
def Holds : Expr → Option Json → Prop
  | .predicate field op operand, value => op.Accepts operand (addressed field value)
  | .combine .all children, value => HoldsAll children value
  | .combine .any children, value => HoldsAny children value
  | .arrayMatch field mode inner, value =>
    ∃ items, addressed field value = some (.array items) ∧
      mode.Over items fun item => inner.Holds (some item)

def HoldsAll : List Expr → Option Json → Prop
  | [], _ => True
  | x :: xs, value => x.Holds value ∧ HoldsAll xs value

def HoldsAny : List Expr → Option Json → Prop
  | [], _ => False
  | x :: xs, value => x.Holds value ∨ HoldsAny xs value

end

theorem holdsAll_iff {children : List Expr} {value : Option Json} :
    HoldsAll children value ↔ ∀ child ∈ children, child.Holds value := by
  induction children with
  | nil => simp [HoldsAll]
  | cons x xs ih => simp [HoldsAll, ih]

theorem holdsAny_iff {children : List Expr} {value : Option Json} :
    HoldsAny children value ↔ ∃ child ∈ children, child.Holds value := by
  induction children with
  | nil => simp [HoldsAny]
  | cons x xs ih => simp [HoldsAny, ih]

mutual

/-- No field of the expression begins like an operator. -/
def PlainFields : Expr → Prop
  | .predicate field _ _ => SelectorKey.isOperator field = false
  | .combine _ children => PlainFieldsAll children
  | .arrayMatch field _ inner => SelectorKey.isOperator field = false ∧ inner.PlainFields

def PlainFieldsAll : List Expr → Prop
  | [] => True
  | x :: xs => x.PlainFields ∧ PlainFieldsAll xs

end

omit [Regex.Engine] in
theorem plainFieldsAll_iff {children : List Expr} :
    PlainFieldsAll children ↔ ∀ child ∈ children, child.PlainFields := by
  induction children with
  | nil => simp [PlainFieldsAll]
  | cons x xs ih => simp [PlainFieldsAll, ih]

end Expr

theorem Operator.holds_iff_accepts {op : Operator} {operand : Json} {value : Option Json} :
    op.holds operand value = true ↔ op.Accepts operand value := by
  cases op with
  | compare c => cases value <;> simp [holds, Accepts, Comparison.holds_iff_relates]
  | present => cases operand <;> simp [holds, Accepts, Json.bool?]
  | pattern =>
    simp only [holds, Accepts]
    split
    next text sought =>
      cases hp : Pattern.compile sought <;> simp [Pattern.finds, hp]
    next hother =>
      simp only [Bool.false_eq_true, false_iff]
      rintro ⟨text, sought, -, hvalue, hoperand, -⟩
      exact hother text sought hvalue hoperand

namespace Expr

open Json (selects selectsEntry)

omit [Regex.Engine] in
theorem isObject_document (e : Expr) : e.document.isObject = true := by
  cases e with
  | predicate field op operand => unfold document keyed; split <;> rfl
  | combine how children => rfl
  | arrayMatch field mode inner => unfold document keyed; split <;> rfl

theorem selects_single (key : String) (arg : Json) (value : Option Json) :
    selects (.object [(key, arg)]) value = selectsEntry (key, arg) value := by
  simp [selects, Json.selectsEntries]

theorem selects_keyed {field : String} {body : Json} (hfield : SelectorKey.isOperator field = false)
    (hbody : body.isOperatorObject = true) (value : Option Json) :
    selects (keyed field body) value = selects body (addressed field value) := by
  unfold keyed addressed
  split
  · rfl
  · rw [selects_single]
    simp [selectsEntry, SelectorKey.ofString_of_not_isOperator hfield, hbody]

theorem selects_operator (op : Operator) (operand : Json) (value : Option Json) :
    selects (.object [(op.keyword, operand)]) value = op.holds operand value := by
  rw [selects_single]
  simp only [selectsEntry, SelectorKey.ofString_keyword]

theorem selects_arrayMatch (mode : Quantifier) (inner : Expr) (value : Option Json) :
    selects (.object [(mode.keyword, inner.document)]) value = true ↔
      ∃ items, value = some (.array items) ∧
        mode.Over items fun item => selects inner.document (some item) = true := by
  rw [selects_single]
  simp only [selectsEntry, SelectorKey.ofString_quantifier, isObject_document, if_true]
  cases value with
  | none => cases mode <;> simp
  | some v => cases mode <;> cases v <;> simp [Quantifier.Over]

mutual

/-- The document of an expression asks of a value what the expression says of it. -/
theorem selects_document : ∀ (e : Expr) (_ : e.PlainFields) (value : Option Json),
    selects e.document value = true ↔ e.Holds value
  | .predicate field op operand, hplain, value => by
    have hop : (Json.object [(op.keyword, operand)]).isOperatorObject = true := by
      simp [Json.isOperatorObject, SelectorKey.isOperator_keyword]
    rw [document, selects_keyed hplain hop, selects_operator, Operator.holds_iff_accepts]
    rfl
  | .combine .all children, hplain, value => by
    rw [document, selects_single]
    exact selectsAllOf_documents children hplain value
  | .combine .any children, hplain, value => by
    rw [document, selects_single]
    exact selectsAnyOf_documents children hplain value
  | .arrayMatch field mode inner, hplain, value => by
    have hmode : (Json.object [(mode.keyword, inner.document)]).isOperatorObject = true := by
      cases mode <;> rfl
    rw [document, selects_keyed hplain.1 hmode, selects_arrayMatch]
    simp only [selects_document inner hplain.2]
    rfl

theorem selectsAllOf_documents : ∀ (children : List Expr) (_ : PlainFieldsAll children)
    (value : Option Json),
    Json.selectsAllOf (documents children) value = true ↔ HoldsAll children value
  | [], _, _ => by simp [documents, Json.selectsAllOf, HoldsAll]
  | x :: xs, hplain, value => by
    simp [documents, Json.selectsAllOf, HoldsAll, selects_document x hplain.1 value,
      selectsAllOf_documents xs hplain.2 value]

theorem selectsAnyOf_documents : ∀ (children : List Expr) (_ : PlainFieldsAll children)
    (value : Option Json),
    Json.selectsAnyOf (documents children) value = true ↔ HoldsAny children value
  | [], _, _ => by simp [documents, Json.selectsAnyOf, HoldsAny]
  | x :: xs, hplain, value => by
    simp [documents, Json.selectsAnyOf, HoldsAny, selects_document x hplain.1 value,
      selectsAnyOf_documents xs hplain.2 value]

end

end Expr

end

namespace Selector

section

variable [Regex.Engine]

theorem root_of_ofExpr? {root : Expr} {selector : Selector} (h : ofExpr? root = .ok selector) :
    selector.root = root := by
  unfold ofExpr? at h
  split at h
  · cases h; rfl
  · cases h

theorem exists_ofExpr?_iff {root : Expr} : (∃ selector, ofExpr? root = .ok selector) ↔ root.check false = .ok () := by
  constructor
  · rintro ⟨selector, h⟩
    rw [← root_of_ofExpr? h]
    exact selector.checked
  · intro h
    unfold ofExpr?
    split
    next hok => exact ⟨⟨root, hok⟩, rfl⟩
    next e herror => rw [h] at herror; cases herror

theorem isMatch_everything (doc : Json) :
    everything.document.isMatch doc = true ↔ ∃ v, doc.at? "_id" = some v ∧ v ≠ .null := by
  have hplain : everything.root.PlainFields := rfl
  have hgreater (v : Json) : v.collate .null = .gt ↔ v ≠ .null := by
    cases v <;> simp [Json.collate, Json.rank, Nat.compare_eq_gt]
  unfold Selector.document Json.isMatch
  rw [Expr.selects_document _ hplain]
  simp [everything, Expr.greater, Expr.compare, Expr.Holds, Operator.Accepts, Comparison.Relates, addressed,
    hgreater]

/-- A document matches a selector when all the expressions that were selected hold of it; where none were, when
it has an `_id` that is not null. -/
theorem isMatch_select {exprs : List Expr} {selector : Selector} (hselect : select exprs = .ok selector)
    (hplain : ∀ e ∈ exprs, e.PlainFields) (doc : Json) :
    (exprs ≠ [] → (selector.document.isMatch doc = true ↔ ∀ e ∈ exprs, e.Holds (some doc))) ∧
      (exprs = [] → (selector.document.isMatch doc = true ↔
        ∃ v, doc.at? "_id" = some v ∧ v ≠ .null)) := by
  constructor
  · intro hne
    have hroot : selector.root = .conjunction exprs := by
      cases exprs with
      | nil => exact absurd rfl hne
      | cons x xs => exact root_of_ofExpr? hselect
    unfold Selector.document Json.isMatch
    match exprs, hplain with
    | [x], hplain =>
      rw [hroot, Expr.conjunction, Expr.selects_document x (hplain x (by simp))]
      simp
    | x :: y :: rest, hplain =>
      have hall : (Expr.allOf (x :: y :: rest)).PlainFields := Expr.plainFieldsAll_iff.mpr hplain
      have hconjunction : Expr.conjunction (x :: y :: rest) = Expr.allOf (x :: y :: rest) := rfl
      rw [hroot, hconjunction, Expr.selects_document _ hall]
      exact Expr.holdsAll_iff
  · rintro rfl
    cases hselect
    exact isMatch_everything doc

end

/-- Shifts with one strictly between one and three, and a note or the name Ann. -/
theorem isMatch_select_shifts :
    let exprs : List Expr :=
      [.someItem "shifts" (.allOf [.greater "" (.nat 1), .less "" (.nat 3)]),
        .anyOf [.present "note", .equal "name.first" (.string "Ann")]]
    let doc : Json := .object [("name", .object [("first", .string "Ann")]), ("shifts", .array [.nat 5, .nat 2])]
    ∃ selector, select exprs = .ok selector ∧ (∀ e ∈ exprs, e.PlainFields) ∧
      selector.document.isMatch doc = true ∧ ∀ e ∈ exprs, e.Holds (some doc) := by
  intro exprs doc
  have hplain : ∀ e ∈ exprs, e.PlainFields :=
    Expr.plainFieldsAll_iff.mp ⟨⟨rfl, rfl, rfl, trivial⟩, ⟨rfl, rfl, trivial⟩, trivial⟩
  have hmatch : (Expr.conjunction exprs).document.isMatch doc = true := by decide +kernel
  have hselect : select exprs = .ok ⟨.conjunction exprs, rfl⟩ := rfl
  have hholds := (isMatch_select hselect hplain doc).1 (by simp [exprs])
  exact ⟨⟨.conjunction exprs, rfl⟩, hselect, hplain, hmatch, hholds.mp hmatch⟩

end Selector

end PagedFind
