import PagedFind.Proofs.Selector.Meaning
import Mathlib.Data.Set.Function

namespace PagedFind

namespace Expr

mutual

/-- No combination is empty, and the empty field stands only where there is a current item. -/
def WellFormed (inArray : Bool) : Expr → Prop
  | .predicate field _ _ => field = "" → inArray = true
  | .combine _ children => children ≠ [] ∧ WellFormedAll inArray children
  | .arrayMatch field _ inner => (field = "" → inArray = true) ∧ inner.WellFormed true

def WellFormedAll (inArray : Bool) : List Expr → Prop
  | [] => True
  | x :: xs => x.WellFormed inArray ∧ WellFormedAll inArray xs

end

def operatorWords : List String := ["$eq", "$ne", "$gt", "$gte", "$lt", "$lte", "$exists", "$regex"]

mutual

/-- The grammar of documents. Only inside an array match may a document name no field. -/
inductive Grammar : Bool → Json → Prop where
  | all {inArray : Bool} {children : List Json} (nonempty : children ≠ [])
      (each : ∀ child ∈ children, Grammar inArray child) :
      Grammar inArray (.object [("$and", .array children)])
  | any {inArray : Bool} {children : List Json} (nonempty : children ≠ [])
      (each : ∀ child ∈ children, Grammar inArray child) :
      Grammar inArray (.object [("$or", .array children)])
  | field {inArray : Bool} {name : String} {body : Json} (named : name ≠ "")
      (plain : SelectorKey.isOperator name = false) (asked : GrammarBody body) :
      Grammar inArray (.object [(name, body)])
  | item {body : Json} (asked : GrammarBody body) : Grammar true body

/-- What may be asked of a field or of the current item. -/
inductive GrammarBody : Json → Prop where
  | operator {word : String} (known : word ∈ operatorWords) (operand : Json) :
      GrammarBody (.object [(word, operand)])
  | someItem {inner : Json} (items : Grammar true inner) : GrammarBody (.object [("$elemMatch", inner)])
  | everyItem {inner : Json} (items : Grammar true inner) : GrammarBody (.object [("$allMatch", inner)])

end

mutual

/-- The expression that a document was made of. -/
def ofDocument? (inArray : Bool) : Json → Option Expr
  | .object [entry] => ofKeyed? inArray entry
  | _ => none

def ofKeyed? (inArray : Bool) : String × Json → Option Expr
  | (key, arg) =>
    match SelectorKey.ofString key with
    | .combine how => (ofChildren? inArray arg).map (.combine how)
    | .arrayMatch mode => if inArray then (ofDocument? true arg).map (.arrayMatch "" mode) else none
    | .operator op => if inArray then some (.predicate "" op arg) else none
    | .unknown => none
    | .field field => if field = "" then none else ofBody? field arg

def ofChildren? (inArray : Bool) : Json → Option (List Expr)
  | .array (x :: xs) => ofDocuments? inArray (x :: xs)
  | _ => none

def ofDocuments? (inArray : Bool) : List Json → Option (List Expr)
  | [] => some []
  | x :: xs => (ofDocument? inArray x).bind fun e => (ofDocuments? inArray xs).map (e :: ·)

def ofBody? (field : String) : Json → Option Expr
  | .object [entry] => ofAsked? field entry
  | _ => none

def ofAsked? (field : String) : String × Json → Option Expr
  | (key, arg) =>
    match SelectorKey.ofString key with
    | .arrayMatch mode => (ofDocument? true arg).map (.arrayMatch field mode)
    | .operator op => some (.predicate field op arg)
    | _ => none

end

theorem keyword_mem_operatorWords (op : Operator) : op.keyword ∈ operatorWords := by
  cases op with
  | compare c => cases c <;> decide
  | present => decide
  | pattern => decide

theorem exists_keyword_of_mem_operatorWords {word : String} (h : word ∈ operatorWords) :
    ∃ op : Operator, op.keyword = word := by
  simp only [operatorWords, List.mem_cons, List.not_mem_nil, or_false] at h
  rcases h with rfl | rfl | rfl | rfl | rfl | rfl | rfl | rfl
  exacts [⟨.compare .equal, rfl⟩, ⟨.compare .notEqual, rfl⟩, ⟨.compare .greater, rfl⟩,
    ⟨.compare .greaterEqual, rfl⟩, ⟨.compare .less, rfl⟩, ⟨.compare .lessEqual, rfl⟩, ⟨.present, rfl⟩,
    ⟨.pattern, rfl⟩]

theorem grammar_combine (how : Connective) {inArray : Bool} {children : List Json} (nonempty : children ≠ [])
    (each : ∀ child ∈ children, Grammar inArray child) :
    Grammar inArray (.object [(how.keyword, .array children)]) := by
  cases how with
  | all => exact .all nonempty each
  | any => exact .any nonempty each

theorem grammarBody_arrayMatch (mode : Quantifier) {inner : Json} (items : Grammar true inner) :
    GrammarBody (.object [(mode.keyword, inner)]) := by
  cases mode with
  | some => exact .someItem items
  | every => exact .everyItem items

theorem grammar_keyed {inArray : Bool} {field : String} {body : Json} (placed : field = "" → inArray = true)
    (plain : SelectorKey.isOperator field = false) (asked : GrammarBody body) :
    Grammar inArray (keyed field body) := by
  by_cases hfield : field = ""
  · rw [placed hfield, keyed, if_pos hfield]
    exact .item asked
  · rw [keyed, if_neg hfield]
    exact .field hfield plain asked

mutual

theorem grammar_document : ∀ (e : Expr) {inArray : Bool} (_ : e.WellFormed inArray) (_ : e.PlainFields),
    Grammar inArray e.document
  | .predicate _ op operand, _, hwell, hplain =>
    grammar_keyed hwell hplain (.operator (keyword_mem_operatorWords op) operand)
  | .combine how children, _, hwell, hplain => by
    refine grammar_combine how ?_ (grammar_documents children hwell.2 hplain)
    cases children with
    | nil => exact absurd rfl hwell.1
    | cons _ _ => exact List.cons_ne_nil _ _
  | .arrayMatch _ mode inner, _, hwell, hplain =>
    grammar_keyed hwell.1 hplain.1 (grammarBody_arrayMatch mode (grammar_document inner hwell.2 hplain.2))

theorem grammar_documents : ∀ (children : List Expr) {inArray : Bool} (_ : WellFormedAll inArray children)
    (_ : PlainFieldsAll children), ∀ child ∈ documents children, Grammar inArray child
  | [], _, _, _ => by simp [documents]
  | x :: xs, _, hwell, hplain => by
    intro child hchild
    rcases List.mem_cons.mp hchild with rfl | hrest
    · exact grammar_document x hwell.1 hplain.1
    · exact grammar_documents xs hwell.2 hplain.2 child hrest

end

theorem ofDocument?_keyed {inArray : Bool} {field key : String} {arg : Json}
    (placed : field = "" → inArray = true) (plain : SelectorKey.isOperator field = false) {e : Expr}
    (hread : ofAsked? field (key, arg) = some e) :
    ofDocument? inArray (keyed field (.object [(key, arg)])) = some e := by
  by_cases hfield : field = ""
  · subst hfield
    rw [keyed, if_pos rfl, ofDocument?, ofKeyed?, placed rfl]
    rw [ofAsked?] at hread
    cases hkey : SelectorKey.ofString key with
    | arrayMatch mode => simpa [hkey] using hread
    | operator op => simpa [hkey] using hread
    | combine how => simp [hkey] at hread
    | unknown => simp [hkey] at hread
    | field path => simp [hkey] at hread
  · simp [keyed, hfield, ofDocument?, ofKeyed?, ofBody?, SelectorKey.ofString_of_not_isOperator plain, hread]

mutual

theorem ofDocument?_document : ∀ (e : Expr) {inArray : Bool} (_ : e.WellFormed inArray) (_ : e.PlainFields),
    ofDocument? inArray e.document = some e
  | .predicate field op operand, _, hwell, hplain => by
    refine ofDocument?_keyed hwell hplain ?_
    rw [ofAsked?, SelectorKey.ofString_keyword]
  | .combine how (x :: xs), _, hwell, hplain => by
    have hread := ofDocuments?_documents (x :: xs) hwell.2 hplain
    simp only [document, documents, ofDocument?, ofKeyed?, SelectorKey.ofString_connective, ofChildren?] at hread ⊢
    rw [hread, Option.map_some]
  | .arrayMatch field mode inner, _, hwell, hplain => by
    refine ofDocument?_keyed hwell.1 hplain.1 ?_
    rw [ofAsked?, SelectorKey.ofString_quantifier]
    simp only [ofDocument?_document inner hwell.2 hplain.2, Option.map_some]
  | .combine _ [], _, hwell, _ => absurd rfl hwell.1

theorem ofDocuments?_documents : ∀ (children : List Expr) {inArray : Bool} (_ : WellFormedAll inArray children)
    (_ : PlainFieldsAll children), ofDocuments? inArray (documents children) = some children
  | [], _, _, _ => rfl
  | x :: xs, _, hwell, hplain => by
    rw [documents, ofDocuments?, ofDocument?_document x hwell.1 hplain.1,
      ofDocuments?_documents xs hwell.2 hplain.2]
    rfl

end

/-- An expression of the grammar, and its document. -/
structure Denotes (inArray : Bool) (e : Expr) (s : Json) : Prop where
  wellFormed : e.WellFormed inArray
  plain : e.PlainFields
  document : e.document = s

theorem exists_documents {inArray : Bool} {children : List Json}
    (each : ∀ child ∈ children, ∃ e : Expr, e.Denotes inArray child) :
    ∃ es : List Expr, WellFormedAll inArray es ∧ PlainFieldsAll es ∧ documents es = children := by
  induction children with
  | nil => exact ⟨[], trivial, trivial, rfl⟩
  | cons x xs ih =>
    obtain ⟨e, hwell, hplain, hx⟩ := each x List.mem_cons_self
    obtain ⟨es, hwells, hplains, hxs⟩ := ih fun child hchild => each child (List.mem_cons_of_mem x hchild)
    exact ⟨e :: es, ⟨hwell, hwells⟩, ⟨hplain, hplains⟩, by rw [documents, hx, hxs]⟩

theorem exists_denotes_combine (how : Connective) {inArray : Bool} {children : List Json}
    (nonempty : children ≠ []) (each : ∀ child ∈ children, ∃ e : Expr, e.Denotes inArray child) :
    ∃ e : Expr, e.Denotes inArray (.object [(how.keyword, .array children)]) := by
  obtain ⟨es, hwell, hplain, rfl⟩ := exists_documents each
  refine ⟨.combine how es, ⟨?_, hwell⟩, hplain, rfl⟩
  rintro rfl
  exact nonempty rfl

theorem exists_denotes_arrayMatch (mode : Quantifier) {inner : Json} (items : ∃ e : Expr, e.Denotes true inner)
    {inArray : Bool} {field : String} (placed : field = "" → inArray = true)
    (plain : SelectorKey.isOperator field = false) :
    ∃ e : Expr, e.Denotes inArray (keyed field (.object [(mode.keyword, inner)])) := by
  obtain ⟨e, hwell, hplain, rfl⟩ := items
  exact ⟨.arrayMatch field mode e, ⟨placed, hwell⟩, ⟨plain, hplain⟩, rfl⟩

mutual

theorem exists_of_grammar : ∀ {inArray : Bool} {s : Json}, Grammar inArray s → ∃ e : Expr, e.Denotes inArray s
  | _, _, .all nonempty each =>
    exists_denotes_combine .all nonempty fun child hchild => exists_of_grammar (each child hchild)
  | _, _, .any nonempty each =>
    exists_denotes_combine .any nonempty fun child hchild => exists_of_grammar (each child hchild)
  | inArray, .object [(name, body)], .field named plain asked => by
    have hbody : ∃ e : Expr, e.Denotes inArray (keyed name body) :=
      exists_of_grammarBody asked (fun h => absurd h named) plain
    rwa [keyed, if_neg named] at hbody
  | _, body, .item asked => by
    have hbody : ∃ e : Expr, e.Denotes true (keyed "" body) :=
      exists_of_grammarBody asked (fun _ => rfl) rfl
    rwa [keyed, if_pos rfl] at hbody

theorem exists_of_grammarBody : ∀ {body : Json}, GrammarBody body → ∀ {inArray : Bool} {field : String},
    (field = "" → inArray = true) → SelectorKey.isOperator field = false →
      ∃ e : Expr, e.Denotes inArray (keyed field body)
  | _, .operator known operand, _, field, placed, plain => by
    obtain ⟨op, rfl⟩ := exists_keyword_of_mem_operatorWords known
    exact ⟨.predicate field op operand, placed, plain, rfl⟩
  | _, .someItem items, _, _, placed, plain =>
    exists_denotes_arrayMatch .some (exists_of_grammar items) placed plain
  | _, .everyItem items, _, _, placed, plain =>
    exists_denotes_arrayMatch .every (exists_of_grammar items) placed plain

end

mutual

theorem denotes_of_ofDocument? : ∀ (s : Json) {inArray : Bool} {e : Expr},
    ofDocument? inArray s = some e → e.Denotes inArray s
  | .object [entry], _, _, h => denotes_of_ofKeyed? entry h
  | .null, _, _, h | .bool _, _, _, h | .number _, _, _, h | .string _, _, _, h | .array _, _, _, h
  | .object [], _, _, h | .object (_ :: _ :: _), _, _, h => nomatch h

theorem denotes_of_ofKeyed? : ∀ (entry : String × Json) {inArray : Bool} {e : Expr},
    ofKeyed? inArray entry = some e → e.Denotes inArray (.object [entry])
  | (key, arg), inArray, e, h => by
    have hspelled := SelectorKey.spelled_ofString key
    rw [ofKeyed?] at h
    cases hkey : SelectorKey.ofString key with
    | combine how =>
      rw [hkey] at h hspelled
      obtain ⟨children, hread, rfl⟩ := Option.map_eq_some_iff.mp h
      obtain ⟨hwell, hplain, hdocument⟩ := denotes_of_ofChildren? arg hread
      exact ⟨hwell, hplain, by rw [document, hdocument, hspelled]⟩
    | arrayMatch mode =>
      rw [hkey] at h hspelled
      obtain ⟨rfl, h⟩ := Option.ite_none_right_eq_some.mp h
      obtain ⟨inner, hread, rfl⟩ := Option.map_eq_some_iff.mp h
      obtain ⟨hwell, hplain, hdocument⟩ := denotes_of_ofDocument? arg hread
      exact ⟨⟨fun _ => rfl, hwell⟩, ⟨rfl, hplain⟩, by rw [document, hdocument, hspelled]; rfl⟩
    | operator op =>
      rw [hkey] at h hspelled
      obtain ⟨rfl, h⟩ := Option.ite_none_right_eq_some.mp h
      cases h
      exact ⟨fun _ => rfl, rfl, by rw [document, hspelled]; rfl⟩
    | unknown =>
      rw [hkey] at h
      cases h
    | field path =>
      rw [hkey] at h hspelled
      obtain ⟨rfl, hplain⟩ := hspelled
      obtain ⟨hnamed, h⟩ := Option.ite_none_left_eq_some.mp h
      have hbody : e.Denotes inArray (keyed key arg) :=
        denotes_of_ofBody? arg h (fun h => absurd h hnamed) hplain
      rwa [keyed, if_neg hnamed] at hbody

theorem denotes_of_ofChildren? : ∀ (arg : Json) {inArray : Bool} {children : List Expr},
    ofChildren? inArray arg = some children →
      (children ≠ [] ∧ WellFormedAll inArray children) ∧ PlainFieldsAll children ∧
        Json.array (documents children) = arg
  | .array (x :: xs), _, _, h => by
    obtain ⟨hwell, hplain, hdocuments⟩ := denotes_of_ofDocuments? (x :: xs) h
    refine ⟨⟨?_, hwell⟩, hplain, by rw [hdocuments]⟩
    rintro rfl
    cases hdocuments
  | .null, _, _, h | .bool _, _, _, h | .number _, _, _, h | .string _, _, _, h | .object _, _, _, h
  | .array [], _, _, h => nomatch h

theorem denotes_of_ofDocuments? : ∀ (items : List Json) {inArray : Bool} {children : List Expr},
    ofDocuments? inArray items = some children →
      WellFormedAll inArray children ∧ PlainFieldsAll children ∧ documents children = items
  | [], _, _, h => by
    cases h
    exact ⟨trivial, trivial, rfl⟩
  | x :: xs, _, _, h => by
    obtain ⟨e, hread, h⟩ := Option.bind_eq_some_iff.mp h
    obtain ⟨es, hreads, rfl⟩ := Option.map_eq_some_iff.mp h
    obtain ⟨hwell, hplain, hdocument⟩ := denotes_of_ofDocument? x hread
    obtain ⟨hwells, hplains, hdocuments⟩ := denotes_of_ofDocuments? xs hreads
    exact ⟨⟨hwell, hwells⟩, ⟨hplain, hplains⟩, by rw [documents, hdocument, hdocuments]⟩

theorem denotes_of_ofBody? : ∀ (body : Json) {inArray : Bool} {field : String} {e : Expr},
    ofBody? field body = some e → (field = "" → inArray = true) → SelectorKey.isOperator field = false →
      e.Denotes inArray (keyed field body)
  | .object [entry], _, _, _, h, placed, plain => denotes_of_ofAsked? entry h placed plain
  | .null, _, _, _, h, _, _ | .bool _, _, _, _, h, _, _ | .number _, _, _, _, h, _, _
  | .string _, _, _, _, h, _, _ | .array _, _, _, _, h, _, _ | .object [], _, _, _, h, _, _
  | .object (_ :: _ :: _), _, _, _, h, _, _ => nomatch h

theorem denotes_of_ofAsked? : ∀ (entry : String × Json) {inArray : Bool} {field : String} {e : Expr},
    ofAsked? field entry = some e → (field = "" → inArray = true) → SelectorKey.isOperator field = false →
      e.Denotes inArray (keyed field (.object [entry]))
  | (key, arg), inArray, field, e, h, placed, plain => by
    have hspelled := SelectorKey.spelled_ofString key
    rw [ofAsked?] at h
    cases hkey : SelectorKey.ofString key with
    | arrayMatch mode =>
      rw [hkey] at h hspelled
      obtain ⟨inner, hread, rfl⟩ := Option.map_eq_some_iff.mp h
      obtain ⟨hwell, hplain, hdocument⟩ := denotes_of_ofDocument? arg hread
      exact ⟨⟨placed, hwell⟩, ⟨plain, hplain⟩, by rw [document, hdocument, hspelled]⟩
    | operator op =>
      rw [hkey] at h hspelled
      cases h
      exact ⟨placed, plain, by rw [document, hspelled]⟩
    | combine how => rw [hkey] at h; cases h
    | unknown => rw [hkey] at h; cases h
    | field path => rw [hkey] at h; cases h

end

/-- Reading finds just the expression that a document was made of. -/
theorem ofDocument?_eq_some_iff {inArray : Bool} {s : Json} {e : Expr} :
    ofDocument? inArray s = some e ↔ e.Denotes inArray s := by
  constructor
  · exact denotes_of_ofDocument? s
  · rintro ⟨hwell, hplain, rfl⟩
    exact ofDocument?_document e hwell hplain

theorem grammar_iff_exists_denotes {inArray : Bool} {s : Json} :
    Grammar inArray s ↔ ∃ e : Expr, e.Denotes inArray s := by
  constructor
  · exact exists_of_grammar
  · rintro ⟨e, hwell, hplain, rfl⟩
    exact grammar_document e hwell hplain

/-- Documents are one to one with the well-formed expressions of plain fields, they fill the grammar, and they are
read back: operands come back as they were, and what is not in the grammar is not read. -/
theorem document_bijOn (inArray : Bool) :
    Set.BijOn document {e | e.WellFormed inArray ∧ e.PlainFields} {s | Grammar inArray s} ∧
      (∀ e : Expr, e.WellFormed inArray → e.PlainFields → ofDocument? inArray e.document = some e) ∧
      (∀ s, Grammar inArray s → ∃ e : Expr, ofDocument? inArray s = some e ∧ e.document = s) ∧
      ∀ s, ¬Grammar inArray s → ofDocument? inArray s = none := by
  refine ⟨⟨?_, ?_, ?_⟩, fun e => ofDocument?_document e, ?_, ?_⟩
  · rintro e ⟨hwell, hplain⟩
    exact grammar_document e hwell hplain
  · rintro a ⟨hwella, hplaina⟩ b ⟨hwellb, hplainb⟩ hab
    have hreada := ofDocument?_document a hwella hplaina
    have hreadb := ofDocument?_document b hwellb hplainb
    rw [hab] at hreada
    exact Option.some.inj (hreada.symm.trans hreadb)
  · intro s hs
    obtain ⟨e, hwell, hplain, hdocument⟩ := grammar_iff_exists_denotes.mp hs
    exact ⟨e, ⟨hwell, hplain⟩, hdocument⟩
  · intro s hs
    obtain ⟨e, he⟩ := grammar_iff_exists_denotes.mp hs
    exact ⟨e, ofDocument?_eq_some_iff.mpr he, he.document⟩
  · intro s hs
    refine Option.eq_none_iff_forall_ne_some.mpr fun e he => hs ?_
    exact grammar_iff_exists_denotes.mpr ⟨e, ofDocument?_eq_some_iff.mp he⟩

/-- Operands that look like operators, an item of an item, and an array match of the item itself. -/
theorem document_bijOn_nested :
    let e : Expr := .anyOf
      [.someItem "shifts" (.allOf [.greater "" (.nat 1), .everyItem "" [.present "", .pattern "name" "^A"]]),
        .equal "note" (.object [("$and", .array [])])]
    e.WellFormed false ∧ e.PlainFields ∧ Grammar false e.document ∧ ofDocument? false e.document = some e ∧
      ¬Grammar false (.object [("$eq", .nat 1)]) := by
  intro e
  have hwell : e.WellFormed false := by simp [e, anyOf, someItem, allOf, greater, compare, everyItem, conjunction,
    present, pattern, equal, WellFormed, WellFormedAll]
  have hplain : e.PlainFields :=
    ⟨⟨rfl, rfl, ⟨rfl, rfl, rfl, trivial⟩, trivial⟩, rfl, trivial⟩
  obtain ⟨⟨hmaps, -, -⟩, hback, -, -⟩ := document_bijOn false
  refine ⟨hwell, hplain, hmaps ⟨hwell, hplain⟩, hback e hwell hplain, ?_⟩
  intro h
  obtain ⟨-, -, hread, -⟩ := document_bijOn false
  obtain ⟨e, he, -⟩ := hread _ h
  cases he

end Expr

end PagedFind
