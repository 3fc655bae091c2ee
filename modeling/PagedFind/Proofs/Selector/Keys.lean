import PagedFind.Selector.Matching

namespace PagedFind

namespace SelectorKey

theorem isOperator_keyword (op : Operator) : isOperator op.keyword = true := by
  cases op with
  | compare c => cases c <;> rfl
  | present => rfl
  | pattern => rfl

theorem ofString_keyword (op : Operator) : ofString op.keyword = .operator op := by
  cases op with
  | compare c => cases c <;> rfl
  | present => rfl
  | pattern => rfl

theorem keyword_of_ofKeyword? {key : String} {op : Operator} (h : Operator.ofKeyword? key = some op) :
    key = op.keyword := by
  unfold Operator.ofKeyword? at h
  split at h <;> first | (cases h; rfl) | cases h

theorem isOperator_of_ofKeyword? {key : String} {op : Operator}
    (h : Operator.ofKeyword? key = some op) : isOperator key = true := by
  rw [keyword_of_ofKeyword? h]
  exact isOperator_keyword op

theorem ofString_of_not_isOperator {key : String} (h : isOperator key = false) :
    ofString key = .field key := by
  unfold ofString
  split
  · exact absurd h (by decide)
  · exact absurd h (by decide)
  · exact absurd h (by decide)
  · exact absurd h (by decide)
  · cases hop : Operator.ofKeyword? key with
    | some op => simp [isOperator_of_ofKeyword? hop] at h
    | none => simp [h]

theorem ofString_connective (how : Connective) : ofString how.keyword = .combine how := by
  cases how <;> rfl

theorem ofString_quantifier (mode : Quantifier) : ofString mode.keyword = .arrayMatch mode := by
  cases mode <;> rfl

def Spelled (key : String) : SelectorKey → Prop
  | .combine how => key = how.keyword
  | .arrayMatch mode => key = mode.keyword
  | .operator op => key = op.keyword
  | .unknown => isOperator key = true
  | .field path => key = path ∧ isOperator key = false

/-- What a key is read as says how it was written. -/
theorem spelled_ofString (key : String) : Spelled key (ofString key) := by
  unfold ofString
  split
  · rfl
  · rfl
  · rfl
  · rfl
  · cases hop : Operator.ofKeyword? key with
    | some op => exact keyword_of_ofKeyword? hop
    | none =>
      cases hkey : isOperator key with
      | true => exact hkey
      | false => exact ⟨rfl, hkey⟩

end SelectorKey

end PagedFind
