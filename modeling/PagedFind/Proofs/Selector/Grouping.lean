import PagedFind.Proofs.Selector.Meaning
import Mathlib.Logic.Basic
import Mathlib.Logic.Relation
import PagedFind.Regex.Match

namespace PagedFind

namespace Connective

def dual : Connective → Connective
  | .all => .any
  | .any => .all

def Join : Connective → Prop → Prop → Prop
  | .all, p, q => p ∧ q
  | .any, p, q => p ∨ q

def Over (how : Connective) (exprs : List Expr) (property : Expr → Prop) : Prop :=
  match how with
  | .all => ∀ e ∈ exprs, property e
  | .any => ∃ e ∈ exprs, property e

variable {how : Connective} {exprs exprs' before after : List Expr} {property : Expr → Prop}

theorem over_of_mem_iff (h : ∀ e, e ∈ exprs ↔ e ∈ exprs') : how.Over exprs property ↔ how.Over exprs' property := by
  cases how with
  | all => simp only [Over, h]
  | any => simp only [Over, h]

theorem over_singleton {e : Expr} : how.Over [e] property ↔ property e := by
  cases how with
  | all => exact List.forall_mem_singleton
  | any => simp [Over]

theorem over_append :
    how.Over (exprs ++ exprs') property ↔ how.Join (how.Over exprs property) (how.Over exprs' property) := by
  cases how with
  | all => exact List.forall_mem_append
  | any => simp only [Over, Join, List.mem_append, or_and_right, exists_or]

theorem over_insert {e : Expr} :
    how.Over (before ++ e :: after) property ↔ how.Join (property e) (how.Over (before ++ after) property) := by
  have hfirst : (before ++ e :: after).Perm ([e] ++ (before ++ after)) := List.perm_middle
  rw [over_of_mem_iff fun _ => hfirst.mem_iff, over_append, over_singleton]

theorem over_map (f : Expr → Expr) : how.Over (exprs.map f) property ↔ how.Over exprs fun e => property (f e) := by
  cases how with
  | all => exact List.forall_mem_map
  | any => simp [Over]

/-- Either connective distributes over the other. -/
theorem join_over_dual {p : Prop} :
    how.Join (how.dual.Over exprs property) p ↔ how.dual.Over exprs fun e => how.Join (property e) p := by
  cases how with
  | all => simp only [Join, dual, Over, exists_and_right, ← and_assoc]
  | any =>
    simp only [Join, dual, Over]
    by_cases hp : p
    · simp only [hp, or_true, implies_true]
    · simp only [hp, or_false]

end Connective

namespace Expr

variable [Regex.Engine]

theorem holds_combine {how : Connective} {children : List Expr} {value : Option Json} :
    (combine how children).Holds value ↔ how.Over children fun child => child.Holds value := by
  cases how with
  | all => exact holdsAll_iff
  | any => exact holdsAny_iff

/-- One change in how an expression is put together, anywhere in it. -/
inductive Regroups : Expr → Expr → Prop
  | permute {how : Connective} {children children' : List Expr} (order : children.Perm children') :
      Regroups (.combine how children) (.combine how children')
  | drop {how : Connective} {child : Expr} {before after : List Expr} (again : child ∈ before ++ after) :
      Regroups (.combine how (before ++ child :: after)) (.combine how (before ++ after))
  | unwrap {how : Connective} {child : Expr} : Regroups (.combine how [child]) child
  | splice {how : Connective} {before inner after : List Expr} :
      Regroups (.combine how (before ++ .combine how inner :: after)) (.combine how (before ++ inner ++ after))
  | distribute {how : Connective} {before inner after : List Expr} :
      Regroups (.combine how (before ++ .combine how.dual inner :: after))
        (.combine how.dual (inner.map fun child => .combine how (before ++ child :: after)))
  | child {how : Connective} {child child' : Expr} {before after : List Expr} (below : Regroups child child') :
      Regroups (.combine how (before ++ child :: after)) (.combine how (before ++ child' :: after))
  | item {field : String} {mode : Quantifier} {inner inner' : Expr} (below : Regroups inner inner') :
      Regroups (.arrayMatch field mode inner) (.arrayMatch field mode inner')

/-- One change does not change what an expression says of any value. -/
theorem Regroups.holds_iff {e e' : Expr} (h : Regroups e e') (value : Option Json) :
    e.Holds value ↔ e'.Holds value := by
  induction h generalizing value with
  | permute order =>
    rw [holds_combine, holds_combine]
    exact Connective.over_of_mem_iff fun _ => order.mem_iff
  | @drop how child before after again =>
    have hsame : ∀ e, e ∈ before ++ child :: after ↔ e ∈ before ++ after := by
      intro e
      rw [List.perm_middle.mem_iff, List.mem_cons]
      exact or_iff_right_of_imp fun heq => heq ▸ again
    rw [holds_combine, holds_combine]
    exact Connective.over_of_mem_iff hsame
  | unwrap =>
    rw [holds_combine]
    exact Connective.over_singleton
  | @splice how before inner after =>
    have hfirst : (before ++ inner ++ after).Perm (inner ++ (before ++ after)) := by
      rw [← List.append_assoc]
      exact List.perm_append_comm.append_right after
    rw [holds_combine, holds_combine, Connective.over_of_mem_iff fun _ => hfirst.mem_iff, Connective.over_insert,
      holds_combine]
    exact Connective.over_append.symm
  | @distribute how before inner after =>
    rw [holds_combine, holds_combine, Connective.over_insert, Connective.over_map]
    simp only [holds_combine, Connective.over_insert]
    exact Connective.join_over_dual
  | child below ih =>
    rw [holds_combine, holds_combine, Connective.over_insert, Connective.over_insert, ih value]
  | item below ih =>
    -- The items are current values of their own, so the change is one for every value.
    simp only [Holds, ih]

/-- Nor do any number of changes, in either direction. -/
theorem holds_iff_of_regrouped {e e' : Expr} (h : Relation.EqvGen Regroups e e') (value : Option Json) :
    e.Holds value ↔ e'.Holds value := by
  induction h with
  | rel e e' step => exact step.holds_iff value
  | refl e => exact Iff.rfl
  | symm e e' _ ih => exact ih.symm
  | trans e e' e'' _ _ first second => exact first.trans second

end Expr

namespace Selector

/-- Two selectors that are the same but for how they are put together match the same documents: children may be
permuted, equal children dropped and repeated, single children stand for themselves, combinations be merged into those
around them of the same kind, and either kind be distributed over the other, at any place and any number of times. -/
theorem isMatch_eq_of_regrouped [Regex.Engine] (left right : Expr) (s t : Selector) (hs : ofExpr? left = .ok s)
    (ht : ofExpr? right = .ok t) (hleft : left.PlainFields) (hright : right.PlainFields)
    (h : Relation.EqvGen Expr.Regroups left right) (doc : Json) : s.document.isMatch doc = t.document.isMatch doc := by
  rw [Bool.eq_iff_iff, document, document, root_of_ofExpr? hs, root_of_ofExpr? ht, Json.isMatch, Json.isMatch,
    Expr.selects_document left hleft, Expr.selects_document right hright]
  exact Expr.holds_iff_of_regrouped h (some doc)

/-- A shift between one and three that is asked for in two ways, the lower bound twice in one of them, and a note or a
name that is asked for before it and after it. -/
theorem isMatch_eq_of_regrouped_shifts :
    let noted := Expr.present "note"
    let named := Expr.equal "name.first" (.string "Ann")
    let low := Expr.greater "" (.nat 1)
    let high := Expr.less "" (.nat 3)
    let shift := Expr.someItem "shifts" (.allOf [high, low])
    let left := Expr.allOf [.anyOf [noted, named], .someItem "shifts" (.allOf [.allOf [low, high], low])]
    let right := Expr.anyOf [.allOf [shift, noted], .allOf [named, shift]]
    let doc : Json := .object [("name", .object [("first", .string "Ann")]), ("shifts", .array [.nat 5, .nat 2])]
    ∃ s t, ofExpr? left = .ok s ∧ ofExpr? right = .ok t ∧ left.PlainFields ∧ right.PlainFields ∧
      Relation.EqvGen Expr.Regroups left right ∧ s.document.isMatch doc = true ∧ t.document.isMatch doc = true := by
  intro noted named low high shift left right doc
  have hleft : left.PlainFields := ⟨⟨rfl, rfl, trivial⟩, ⟨rfl, ⟨rfl, rfl, trivial⟩, rfl, trivial⟩, trivial⟩
  have hright : right.PlainFields :=
    ⟨⟨⟨rfl, rfl, rfl, trivial⟩, rfl, trivial⟩, ⟨rfl, ⟨rfl, rfl, rfl, trivial⟩, trivial⟩, trivial⟩
  have hsplice : Expr.Regroups (.allOf [.allOf [low, high], low]) (.allOf [low, high, low]) :=
    @Expr.Regroups.splice .all [] [low, high] [low]
  have hdrop : Expr.Regroups (.allOf [low, high, low]) (.allOf [high, low]) :=
    @Expr.Regroups.drop .all low [] [high, low] (.tail _ (.head _))
  -- Both changes are made inside the array match, which is a child of the whole.
  have hinside : ∀ {e e' : Expr}, Expr.Regroups e e' →
      Expr.Regroups (.allOf [.anyOf [noted, named], .someItem "shifts" e])
        (.allOf [.anyOf [noted, named], .someItem "shifts" e']) :=
    fun below => @Expr.Regroups.child .all _ _ [.anyOf [noted, named]] [] below.item
  have hdistribute : Expr.Regroups (.allOf [.anyOf [noted, named], shift])
      (.anyOf [.allOf [noted, shift], .allOf [named, shift]]) :=
    @Expr.Regroups.distribute .all [] [noted, named] [shift]
  have hpermute : Expr.Regroups (.anyOf [.allOf [noted, shift], .allOf [named, shift]]) right :=
    @Expr.Regroups.child .any _ _ [] [.allOf [named, shift]] (.permute (.swap shift noted []))
  have hregrouped : Relation.EqvGen Expr.Regroups left right :=
    .trans _ _ _ (.rel _ _ (hinside hsplice)) (.trans _ _ _ (.rel _ _ (hinside hdrop))
      (.trans _ _ _ (.rel _ _ hdistribute) (.rel _ _ hpermute)))
  have hmatch : left.document.isMatch doc = true := by decide +kernel
  have hsame := isMatch_eq_of_regrouped left right ⟨left, rfl⟩ ⟨right, rfl⟩ rfl rfl hleft hright hregrouped doc
  exact ⟨⟨left, rfl⟩, ⟨right, rfl⟩, rfl, rfl, hleft, hright, hregrouped, hmatch, hsame.symm.trans hmatch⟩

end Selector

end PagedFind
