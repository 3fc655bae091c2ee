import PagedFind.Proofs.Selector.Meaning
import Mathlib.Data.List.Lex
import PagedFind.Regex.Match

namespace PagedFind

namespace Expr

def children : Expr → List Expr
  | .predicate _ _ _ => []
  | .combine _ children => children
  | .arrayMatch _ _ inner => [inner]

def field? : Expr → Option String
  | .predicate field _ _ => some field
  | .combine _ _ => none
  | .arrayMatch field _ _ => some field

def isArrayMatch : Expr → Bool
  | .arrayMatch _ _ _ => true
  | _ => false

/-- The expression at a place. A place is the way down to it: which child is taken, and which child of that one. Places
in lexicographic order are those of the tree in reading order. -/
def sub? : List Nat → Expr → Option Expr
  | [], e => some e
  | i :: place, e => e.children[i]?.bind (sub? place)

/-- An array match stands strictly above a place; or the whole expression stands inside one. -/
def InArray (inside : Bool) (root : Expr) (place : List Nat) : Prop :=
  inside = true ∨ ∃ above field mode inner, above <+: place ∧ above ≠ place ∧
    root.sub? above = some (.arrayMatch field mode inner)

/-- An array match on a field stands right above a place. -/
def AskedOf (root : Expr) (place : List Nat) (field : String) : Prop :=
  ∃ above i mode inner, place = above ++ [i] ∧ root.sub? above = some (.arrayMatch field mode inner)

def patternOf (operand : Json) : String := operand.string?.getD ""

variable {inside : Bool} {root child : Expr} {i : Nat} {place : List Nat} {e : SelectorError}

theorem sub?_cons (hchild : root.children[i]? = some child) (place : List Nat) :
    root.sub? (i :: place) = child.sub? place := by
  rw [sub?, hchild]
  rfl

theorem exists_child_of_sub?_cons {node : Expr} (h : root.sub? (i :: place) = some node) :
    ∃ child, root.children[i]? = some child := by
  obtain ⟨child, hchild, -⟩ := Option.bind_eq_some_iff.mp h
  exact ⟨child, hchild⟩

theorem inArray_nil : root.InArray inside [] ↔ inside = true := by
  refine ⟨?_, .inl⟩
  rintro (hinside | ⟨above, field, mode, inner, hprefix, hne, -⟩)
  · exact hinside
  · exact absurd (List.prefix_nil.mp hprefix) hne

theorem inArray_cons (hchild : root.children[i]? = some child) :
    root.InArray inside (i :: place) ↔ child.InArray (inside || root.isArrayMatch) place := by
  constructor
  · rintro (hinside | ⟨above, field, mode, inner, hprefix, hne, hmatch⟩)
    · exact .inl (by rw [hinside, Bool.true_or])
    · cases above with
      | nil =>
        have hroot : root = .arrayMatch field mode inner := Option.some.inj hmatch
        exact .inl (by rw [hroot, isArrayMatch, Bool.or_true])
      | cons j above =>
        obtain ⟨rfl, hbelow⟩ := List.cons_prefix_cons.mp hprefix
        rw [sub?_cons hchild] at hmatch
        exact .inr ⟨above, field, mode, inner, hbelow, fun heq => hne (by rw [heq]), hmatch⟩
  · rintro (hinside | ⟨above, field, mode, inner, hprefix, hne, hmatch⟩)
    · rcases Bool.or_eq_true_iff.mp hinside with hinside | harray
      · exact .inl hinside
      · cases root with
        | arrayMatch field mode inner =>
          exact .inr ⟨[], field, mode, inner, List.nil_prefix, List.cons_ne_nil _ _ ∘ Eq.symm, rfl⟩
        | predicate field op operand => cases harray
        | combine how children => cases harray
    · refine .inr ⟨i :: above, field, mode, inner, List.cons_prefix_cons.mpr ⟨rfl, hprefix⟩, ?_, ?_⟩
      · exact fun heq => hne (List.cons.inj heq).2
      · rw [sub?_cons hchild]
        exact hmatch

theorem not_askedOf_nil (field : String) : ¬root.AskedOf [] field := by
  rintro ⟨above, i, mode, inner, hplace, -⟩
  exact List.append_ne_nil_of_right_ne_nil above (List.cons_ne_nil i []) hplace.symm

theorem askedOf_singleton {field : String} :
    root.AskedOf [i] field ↔ ∃ mode inner, root = .arrayMatch field mode inner := by
  constructor
  · rintro ⟨above, j, mode, inner, hplace, hmatch⟩
    cases above with
    | nil => exact ⟨mode, inner, Option.some.inj hmatch⟩
    | cons k above =>
      have hlast : [] = above ++ [j] := (List.cons.inj hplace).2
      exact absurd hlast.symm (List.append_ne_nil_of_right_ne_nil above (List.cons_ne_nil j []))
  · rintro ⟨mode, inner, rfl⟩
    exact ⟨[], i, mode, inner, rfl, rfl⟩

theorem askedOf_cons_cons {j : Nat} {field : String} (hchild : root.children[i]? = some child) :
    root.AskedOf (i :: j :: place) field ↔ child.AskedOf (j :: place) field := by
  constructor
  · rintro ⟨above, k, mode, inner, hplace, hmatch⟩
    cases above with
    | nil => cases hplace
    | cons l above =>
      obtain ⟨rfl, hbelow⟩ := List.cons.inj hplace
      rw [sub?_cons hchild] at hmatch
      exact ⟨above, k, mode, inner, hbelow, hmatch⟩
  · rintro ⟨above, k, mode, inner, hplace, hmatch⟩
    refine ⟨i :: above, k, mode, inner, by rw [hplace, List.cons_append], ?_⟩
    rw [sub?_cons hchild]
    exact hmatch

theorem isEmptyCombination_iff : root.isEmptyCombination = true ↔ ∃ how, root = .combine how [] := by
  unfold isEmptyCombination
  split
  next how => exact iff_of_true rfl ⟨how, rfl⟩
  next hother => exact iff_of_false Bool.false_ne_true fun ⟨how, h⟩ => hother how h

theorem askedOf_cons_iff {field : String} (hchild : root.children[i]? = some child)
    (hplain : root.isArrayMatch = true → child.isEmptyCombination = false) {how : Connective}
    (here : child.sub? place = some (.combine how [])) :
    root.AskedOf (i :: place) field ↔ child.AskedOf place field := by
  cases place with
  | nil =>
    have hempty : child.isEmptyCombination = true := isEmptyCombination_iff.mpr ⟨how, Option.some.inj here⟩
    refine iff_of_false (fun hasked => ?_) (not_askedOf_nil field)
    obtain ⟨mode, inner, rfl⟩ := askedOf_singleton.mp hasked
    rw [hplain rfl] at hempty
    cases hempty
  | cons j place => exact askedOf_cons_cons hchild

/-- An empty field stands outside of arrays, or the field is not empty or stands inside one. -/
theorem unplaced_or_placed (field : String) (inside : Bool) :
    (field = "" ∧ inside = false) ∨ (field = "" → inside = true) := by
  cases inside with
  | true => exact .inr fun _ => rfl
  | false =>
    by_cases hfield : field = ""
    · exact .inl ⟨hfield, rfl⟩
    · exact .inr fun h => absurd h hfield

theorem not_refused_of_placed {field : String} (hplaced : field = "" → inside = true) :
    ¬(field = "" ∧ (!inside) = true) := by
  rintro ⟨hfield, hinside⟩
  rw [hplaced hfield] at hinside
  cases hinside

theorem lt_zero_cons {earlier place : List Nat} (h : earlier < 0 :: place) :
    earlier = [] ∨ ∃ below, earlier = 0 :: below ∧ below < place := by
  cases earlier with
  | nil => exact .inl rfl
  | cons j below =>
    rcases List.cons_lt_cons_iff.mp h with hlt | ⟨rfl, hlt⟩
    · exact absurd hlt (Nat.not_lt_zero j)
    · exact .inr ⟨below, rfl, hlt⟩

variable [Regex.Engine]

/-- What is wrong at a place. An empty field where there is no current item comes before the pattern. -/
inductive FaultAt (inside : Bool) (root : Expr) (place : List Nat) : SelectorError → Prop
  | itemPath {node : Expr} (here : root.sub? place = some node) (unnamed : node.field? = some "")
      (outside : ¬root.InArray inside place) : FaultAt inside root place .itemPathOutsideArray
  | pattern {field : String} {operand : Json} {reason : String}
      (here : root.sub? place = some (.predicate field .pattern operand))
      (placed : field = "" → root.InArray inside place)
      (defect : Pattern.defect? (patternOf operand) = some reason) :
      FaultAt inside root place (.invalidPattern (patternOf operand) reason)
  | emptyCombination {how : Connective} (here : root.sub? place = some (.combine how []))
      (alone : ∀ field, ¬root.AskedOf place field) : FaultAt inside root place (.emptyCombination how)
  | emptyArrayMatch {how : Connective} {field : String} (here : root.sub? place = some (.combine how []))
      (asked : root.AskedOf place field) : FaultAt inside root place (.emptyArrayMatch field)

def Faultless (inside : Bool) (root : Expr) : Prop := ∀ place e, ¬root.FaultAt inside place e

/-- A fault before which, in reading order, there is no other. -/
def FirstFault (inside : Bool) (root : Expr) (e : SelectorError) : Prop :=
  ∃ place, root.FaultAt inside place e ∧ ∀ earlier, earlier < place → ∀ e', ¬root.FaultAt inside earlier e'

/-- The expressions that may be sent: no combination is empty, an empty field stands strictly below an array match, and
every pattern is one of some dialect. -/
structure Sendable (root : Expr) : Prop where
  combinations : ∀ place how, root.sub? place ≠ some (.combine how [])
  fields : ∀ place node, root.sub? place = some node → node.field? = some "" → root.InArray false place
  patterns : ∀ place field operand, root.sub? place = some (.predicate field .pattern operand) →
    Pattern.defect? (patternOf operand) = none

theorem FaultAt.exists_node (h : root.FaultAt inside place e) : ∃ node, root.sub? place = some node := by
  cases h with
  | itemPath here => exact ⟨_, here⟩
  | pattern here => exact ⟨_, here⟩
  | emptyCombination here => exact ⟨_, here⟩
  | emptyArrayMatch here => exact ⟨_, here⟩

/-- The faults below a child are those of the child, unless it is an empty combination in an array match. -/
theorem faultAt_cons (hchild : root.children[i]? = some child)
    (hplain : root.isArrayMatch = true → child.isEmptyCombination = false) :
    root.FaultAt inside (i :: place) e ↔ child.FaultAt (inside || root.isArrayMatch) place e := by
  constructor
  · intro h
    cases h with
    | itemPath here unnamed outside =>
      rw [sub?_cons hchild] at here
      exact .itemPath here unnamed (mt (inArray_cons hchild).mpr outside)
    | pattern here placed defect =>
      rw [sub?_cons hchild] at here
      exact .pattern here (fun hfield => (inArray_cons hchild).mp (placed hfield)) defect
    | emptyCombination here alone =>
      rw [sub?_cons hchild] at here
      exact .emptyCombination here fun field => mt (askedOf_cons_iff hchild hplain here).mpr (alone field)
    | emptyArrayMatch here asked =>
      rw [sub?_cons hchild] at here
      exact .emptyArrayMatch here ((askedOf_cons_iff hchild hplain here).mp asked)
  · intro h
    cases h with
    | itemPath here unnamed outside =>
      exact .itemPath (by rw [sub?_cons hchild, here]) unnamed (mt (inArray_cons hchild).mp outside)
    | pattern here placed defect =>
      exact .pattern (by rw [sub?_cons hchild, here]) (fun hfield => (inArray_cons hchild).mpr (placed hfield)) defect
    | emptyCombination here alone =>
      exact .emptyCombination (by rw [sub?_cons hchild, here]) fun field =>
        mt (askedOf_cons_iff hchild hplain here).mp (alone field)
    | emptyArrayMatch here asked =>
      exact .emptyArrayMatch (by rw [sub?_cons hchild, here]) ((askedOf_cons_iff hchild hplain here).mpr asked)

theorem FaultAt.unique {e' : SelectorError} (h : root.FaultAt inside place e) (h' : root.FaultAt inside place e') :
    e = e' := by
  cases h with
  | itemPath here unnamed outside =>
    cases h' with
    | itemPath here' => rfl
    | pattern here' placed =>
      cases here.symm.trans here'
      exact absurd (placed (Option.some.inj unnamed)) outside
    | emptyCombination here' =>
      cases here.symm.trans here'
      cases unnamed
    | emptyArrayMatch here' =>
      cases here.symm.trans here'
      cases unnamed
  | pattern here placed defect =>
    cases h' with
    | itemPath here' unnamed outside =>
      cases here.symm.trans here'
      exact absurd (placed (Option.some.inj unnamed)) outside
    | pattern here' placed' defect' =>
      cases here.symm.trans here'
      cases defect.symm.trans defect'
      rfl
    | emptyCombination here' => cases here.symm.trans here'
    | emptyArrayMatch here' => cases here.symm.trans here'
  | emptyCombination here alone =>
    cases h' with
    | itemPath here' unnamed =>
      cases here.symm.trans here'
      cases unnamed
    | pattern here' => cases here.symm.trans here'
    | emptyCombination here' =>
      cases here.symm.trans here'
      rfl
    | emptyArrayMatch here' asked => exact absurd asked (alone _)
  | emptyArrayMatch here asked =>
    cases h' with
    | itemPath here' unnamed =>
      cases here.symm.trans here'
      cases unnamed
    | pattern here' => cases here.symm.trans here'
    | emptyCombination here' alone => exact absurd asked (alone _)
    | emptyArrayMatch here' asked' =>
      obtain ⟨above, i, mode, inner, hplace, hmatch⟩ := asked
      obtain ⟨above', i', mode', inner', hplace', hmatch'⟩ := asked'
      obtain ⟨rfl, -⟩ := List.append_inj' (hplace.symm.trans hplace') rfl
      cases hmatch.symm.trans hmatch'
      rfl

theorem FirstFault.unique {e' : SelectorError} (h : root.FirstFault inside e) (h' : root.FirstFault inside e') :
    e = e' := by
  obtain ⟨place, hfault, hfirst⟩ := h
  obtain ⟨place', hfault', hfirst'⟩ := h'
  rcases lt_trichotomy place place' with hlt | rfl | hgt
  · exact absurd hfault (hfirst' place hlt e)
  · exact hfault.unique hfault'
  · exact absurd hfault' (hfirst place' hgt e')

/-- What an outcome of a check has to mean. -/
def Judges (inside : Bool) (root : Expr) : Except SelectorError Unit → Prop
  | .ok _ => root.Faultless inside
  | .error e => root.FirstFault inside e

def JudgesAll (inside : Bool) (exprs : List Expr) : Except SelectorError Unit → Prop
  | .ok _ => ∀ (i : Nat) (child : Expr), exprs[i]? = some child → child.Faultless inside
  | .error e => ∃ (i : Nat) (child : Expr), exprs[i]? = some child ∧ child.FirstFault inside e ∧
      ∀ (j : Nat) (earlier : Expr), j < i → exprs[j]? = some earlier → earlier.Faultless inside

theorem firstFault_nil (h : root.FaultAt inside [] e) : root.FirstFault inside e :=
  ⟨[], h, fun earlier hlt => absurd hlt (List.not_lt_nil earlier)⟩

theorem faultless_predicate {field : String} {op : Operator} {operand : Json}
    (hplaced : field = "" → inside = true)
    (hpattern : op = .pattern → Pattern.defect? (patternOf operand) = none) :
    (Expr.predicate field op operand).Faultless inside := by
  intro place e h
  cases place with
  | cons i place =>
    obtain ⟨node, here⟩ := h.exists_node
    obtain ⟨child, hchild⟩ := exists_child_of_sub?_cons here
    cases hchild
  | nil =>
    cases h with
    | itemPath here unnamed outside =>
      cases here
      exact outside (inArray_nil.mpr (hplaced (Option.some.inj unnamed)))
    | pattern here placed defect =>
      cases here
      rw [hpattern rfl] at defect
      cases defect
    | emptyCombination here => cases here
    | emptyArrayMatch here => cases here

theorem check_of_placed {field : String} {op : Operator} {operand : Json} (hplaced : field = "" → inside = true)
    (hop : op ≠ .pattern) : (Expr.predicate field op operand).check inside = .ok () := by
  rw [check, if_neg (not_refused_of_placed hplaced)]
  exact hop

theorem check_pattern_of_placed {field : String} {operand : Json} (hplaced : field = "" → inside = true) :
    (Expr.predicate field .pattern operand).check inside = checkPattern (patternOf operand) := by
  rw [check, if_neg (not_refused_of_placed hplaced)]
  rfl

theorem judges_predicate (field : String) (op : Operator) (operand : Json) (inside : Bool) :
    (Expr.predicate field op operand).Judges inside ((Expr.predicate field op operand).check inside) := by
  rcases unplaced_or_placed field inside with ⟨rfl, rfl⟩ | hplaced
  · have hcheck : (Expr.predicate "" op operand).check false = .error .itemPathOutsideArray := by simp [check]
    rw [hcheck]
    exact firstFault_nil (.itemPath rfl rfl (mt inArray_nil.mp Bool.false_ne_true))
  · by_cases hop : op = .pattern
    · subst hop
      rw [check_pattern_of_placed hplaced, checkPattern]
      cases hdefect : Pattern.defect? (patternOf operand) with
      | none => exact faultless_predicate hplaced fun _ => hdefect
      | some reason =>
        exact firstFault_nil (.pattern rfl (fun hfield => inArray_nil.mpr (hplaced hfield)) hdefect)
    · rw [check_of_placed hplaced hop]
      exact faultless_predicate hplaced fun hpattern => absurd hpattern hop

theorem judges_emptyCombination (how : Connective) (inside : Bool) :
    (Expr.combine how []).Judges inside ((Expr.combine how []).check inside) := by
  rw [check]
  exact firstFault_nil (.emptyCombination rfl not_askedOf_nil)

theorem not_faultAt_combine_nil {how : Connective} {exprs : List Expr} (hexprs : exprs ≠ []) :
    ¬(Expr.combine how exprs).FaultAt inside [] e := by
  intro h
  cases h with
  | itemPath here unnamed =>
    cases here
    cases unnamed
  | pattern here => cases here
  | emptyCombination here =>
    cases here
    exact hexprs rfl
  | emptyArrayMatch here =>
    cases here
    exact hexprs rfl

theorem faultAt_combine_cons {how : Connective} {exprs : List Expr} (hchild : exprs[i]? = some child) :
    (Expr.combine how exprs).FaultAt inside (i :: place) e ↔ child.FaultAt inside place e := by
  have hcons : (Expr.combine how exprs).FaultAt inside (i :: place) e ↔ child.FaultAt (inside || false) place e :=
    faultAt_cons hchild nofun
  rwa [Bool.or_false] at hcons

theorem check_combine {how : Connective} {exprs : List Expr} (hexprs : exprs ≠ []) :
    (Expr.combine how exprs).check inside = checkAll inside exprs := by
  cases exprs with
  | nil => exact absurd rfl hexprs
  | cons child rest => rw [check, checkAll]

theorem judges_combine {how : Connective} {exprs : List Expr} (hexprs : exprs ≠ [])
    (h : JudgesAll inside exprs (checkAll inside exprs)) :
    (Expr.combine how exprs).Judges inside ((Expr.combine how exprs).check inside) := by
  rw [check_combine hexprs]
  cases houtcome : checkAll inside exprs with
  | ok _ =>
    rw [houtcome] at h
    intro place e hfault
    cases place with
    | nil => exact not_faultAt_combine_nil hexprs hfault
    | cons i place =>
      obtain ⟨node, here⟩ := hfault.exists_node
      obtain ⟨child, hchild⟩ := exists_child_of_sub?_cons here
      exact h i child hchild place e ((faultAt_combine_cons hchild).mp hfault)
  | error e =>
    rw [houtcome] at h
    obtain ⟨i, child, hchild, ⟨place, hfault, hfirst⟩, hearlier⟩ := h
    refine ⟨i :: place, (faultAt_combine_cons hchild).mpr hfault, ?_⟩
    intro earlier hlt e' hfault'
    cases earlier with
    | nil => exact not_faultAt_combine_nil hexprs hfault'
    | cons j earlier =>
      obtain ⟨node, here⟩ := hfault'.exists_node
      obtain ⟨sibling, hsibling⟩ := exists_child_of_sub?_cons here
      have hbelow := (faultAt_combine_cons hsibling).mp hfault'
      rcases List.cons_lt_cons_iff.mp hlt with hleft | ⟨rfl, hdown⟩
      · exact hearlier j sibling hleft hsibling earlier e' hbelow
      · cases hchild.symm.trans hsibling
        exact hfirst earlier hdown e' hbelow

theorem judgesAll_nil (inside : Bool) : JudgesAll inside [] (.ok ()) := by
  intro i child hchild
  cases hchild

/-- The first expression is judged before the others. -/
theorem judgesAll_cons {exprs : List Expr} (hfirst : child.Judges inside (child.check inside))
    (hrest : JudgesAll inside exprs (checkAll inside exprs)) :
    JudgesAll inside (child :: exprs) (checkAll inside (child :: exprs)) := by
  rw [checkAll]
  cases houtcome : child.check inside with
  | error e =>
    rw [houtcome] at hfirst
    exact ⟨0, child, rfl, hfirst, fun j earlier hj => absurd hj (Nat.not_lt_zero j)⟩
  | ok _ =>
    rw [houtcome] at hfirst
    cases hothers : checkAll inside exprs with
    | ok _ =>
      rw [hothers] at hrest
      intro i other hother
      cases i with
      | zero =>
        cases hother
        exact hfirst
      | succ i => exact hrest i other hother
    | error e =>
      rw [hothers] at hrest
      obtain ⟨i, other, hother, hfault, hearlier⟩ := hrest
      refine ⟨i + 1, other, hother, hfault, ?_⟩
      intro j earlier hj hget
      cases j with
      | zero =>
        cases hget
        exact hfirst
      | succ j => exact hearlier j earlier (by omega) hget

theorem faultAt_arrayMatch_nil {field : String} {mode : Quantifier} {inner : Expr} :
    (Expr.arrayMatch field mode inner).FaultAt inside [] e ↔
      field = "" ∧ inside = false ∧ e = .itemPathOutsideArray := by
  constructor
  · intro h
    cases h with
    | itemPath here unnamed outside =>
      cases here
      have hinside : inside ≠ true := mt inArray_nil.mpr outside
      exact ⟨Option.some.inj unnamed, (Bool.not_eq_true inside).mp hinside, rfl⟩
    | pattern here => cases here
    | emptyCombination here => cases here
    | emptyArrayMatch here => cases here
  · rintro ⟨rfl, rfl, rfl⟩
    exact .itemPath rfl rfl (mt inArray_nil.mp Bool.false_ne_true)

theorem exists_child_of_arrayMatch {field : String} {mode : Quantifier} {inner : Expr}
    (h : (Expr.arrayMatch field mode inner).FaultAt inside (i :: place) e) : i = 0 := by
  obtain ⟨node, here⟩ := h.exists_node
  obtain ⟨child, hchild⟩ := exists_child_of_sub?_cons here
  cases i with
  | zero => rfl
  | succ i => cases hchild

theorem faultAt_arrayMatch_cons {field : String} {mode : Quantifier} {inner : Expr}
    (hinner : inner.isEmptyCombination = false) :
    (Expr.arrayMatch field mode inner).FaultAt inside (0 :: place) e ↔ inner.FaultAt true place e := by
  have hcons : (Expr.arrayMatch field mode inner).FaultAt inside (0 :: place) e ↔
      inner.FaultAt (inside || true) place e := faultAt_cons rfl fun _ => hinner
  rwa [Bool.or_true] at hcons

theorem faultAt_emptyArrayMatch (field : String) (mode : Quantifier) (how : Connective) :
    (Expr.arrayMatch field mode (.combine how [])).FaultAt inside [0] (.emptyArrayMatch field) :=
  .emptyArrayMatch rfl (askedOf_singleton.mpr ⟨mode, .combine how [], rfl⟩)

section

variable {field : String} {mode : Quantifier} {inner : Expr} (hplaced : field = "" → inside = true)

include hplaced

theorem not_faultAt_arrayMatch_nil : ¬(Expr.arrayMatch field mode inner).FaultAt inside [] e := by
  intro hfault
  obtain ⟨hfield, hinside, -⟩ := faultAt_arrayMatch_nil.mp hfault
  rw [hplaced hfield] at hinside
  cases hinside

theorem check_arrayMatch_of_placed : (Expr.arrayMatch field mode inner).check inside =
    if inner.isEmptyCombination then .error (.emptyArrayMatch field) else inner.check true := by
  rw [check, if_neg (not_refused_of_placed hplaced)]

theorem firstFault_emptyArrayMatch (mode : Quantifier) (how : Connective) :
    (Expr.arrayMatch field mode (.combine how [])).FirstFault inside (.emptyArrayMatch field) := by
  refine ⟨[0], faultAt_emptyArrayMatch field mode how, ?_⟩
  intro earlier hlt e' hfault
  rcases lt_zero_cons hlt with rfl | ⟨below, -, hbelow⟩
  · exact not_faultAt_arrayMatch_nil hplaced hfault
  · exact List.not_lt_nil below hbelow

theorem Judges.arrayMatch {outcome : Except SelectorError Unit} (h : inner.Judges true outcome)
    (hinner : inner.isEmptyCombination = false) : (Expr.arrayMatch field mode inner).Judges inside outcome := by
  cases outcome with
  | ok _ =>
    intro place e hfault
    cases place with
    | nil => exact not_faultAt_arrayMatch_nil hplaced hfault
    | cons i place =>
      obtain rfl := exists_child_of_arrayMatch hfault
      exact h place e ((faultAt_arrayMatch_cons hinner).mp hfault)
  | error e =>
    obtain ⟨place, hfault, hfirst⟩ := h
    refine ⟨0 :: place, (faultAt_arrayMatch_cons hinner).mpr hfault, ?_⟩
    intro earlier hlt e' hfault'
    rcases lt_zero_cons hlt with rfl | ⟨below, rfl, hbelow⟩
    · exact not_faultAt_arrayMatch_nil hplaced hfault'
    · exact hfirst below hbelow e' ((faultAt_arrayMatch_cons hinner).mp hfault')

end

theorem judges_arrayMatch {field : String} {mode : Quantifier} {inner : Expr}
    (h : inner.Judges true (inner.check true)) :
    (Expr.arrayMatch field mode inner).Judges inside ((Expr.arrayMatch field mode inner).check inside) := by
  rcases unplaced_or_placed field inside with ⟨rfl, rfl⟩ | hplaced
  · have hcheck : (Expr.arrayMatch "" mode inner).check false = .error .itemPathOutsideArray := by simp [check]
    rw [hcheck]
    exact firstFault_nil (faultAt_arrayMatch_nil.mpr ⟨rfl, rfl, rfl⟩)
  · rw [check_arrayMatch_of_placed hplaced]
    cases hinner : inner.isEmptyCombination with
    | true =>
      obtain ⟨how, rfl⟩ := isEmptyCombination_iff.mp hinner
      exact firstFault_emptyArrayMatch hplaced mode how
    | false => exact h.arrayMatch hplaced hinner

mutual

/-- A check passes an expression without faults, and reports the first fault of any other. -/
theorem judges_check : ∀ (root : Expr) (inside : Bool), root.Judges inside (root.check inside)
  | .predicate field op operand, inside => judges_predicate field op operand inside
  | .combine how [], inside => judges_emptyCombination how inside
  | .combine _ (child :: rest), inside => judges_combine (List.cons_ne_nil child rest)
      (judgesAll_cons (judges_check child inside) (judgesAll_checkAll rest inside))
  | .arrayMatch _ _ inner, _ => judges_arrayMatch (judges_check inner true)

theorem judgesAll_checkAll : ∀ (exprs : List Expr) (inside : Bool), JudgesAll inside exprs (checkAll inside exprs)
  | [], inside => judgesAll_nil inside
  | child :: rest, inside => judgesAll_cons (judges_check child inside) (judgesAll_checkAll rest inside)

end

theorem check_eq_ok_iff : root.check inside = .ok () ↔ root.Faultless inside := by
  have h := judges_check root inside
  constructor
  · intro hcheck
    rwa [hcheck] at h
  · intro hfaultless
    cases hcheck : root.check inside with
    | ok _ => rfl
    | error e =>
      rw [hcheck] at h
      obtain ⟨place, hfault, -⟩ := h
      exact absurd hfault (hfaultless place e)

theorem check_eq_error_iff : root.check inside = .error e ↔ root.FirstFault inside e := by
  have h := judges_check root inside
  constructor
  · intro hcheck
    rwa [hcheck] at h
  · intro hfirst
    cases hcheck : root.check inside with
    | ok _ =>
      rw [hcheck] at h
      obtain ⟨place, hfault, -⟩ := hfirst
      exact absurd hfault (h place e)
    | error e' =>
      rw [hcheck] at h
      rw [h.unique hfirst]

theorem exists_faultAt_of_empty {how : Connective} (here : root.sub? place = some (.combine how [])) :
    ∃ e, root.FaultAt inside place e := by
  by_cases hasked : ∃ field, root.AskedOf place field
  · obtain ⟨field, hasked⟩ := hasked
    exact ⟨_, .emptyArrayMatch here hasked⟩
  · exact ⟨_, .emptyCombination here fun field hfield => hasked ⟨field, hfield⟩⟩

theorem faultless_iff_sendable : root.Faultless false ↔ root.Sendable := by
  constructor
  · intro h
    have hfields : ∀ place node, root.sub? place = some node → node.field? = some "" → root.InArray false place := by
      intro place node here unnamed
      by_contra houtside
      exact h place _ (.itemPath here unnamed houtside)
    refine ⟨?_, hfields, ?_⟩
    · intro place how here
      have hempty : ∃ e, root.FaultAt false place e := exists_faultAt_of_empty here
      obtain ⟨e, hfault⟩ := hempty
      exact h place e hfault
    · intro place field operand here
      cases hdefect : Pattern.defect? (patternOf operand) with
      | none => rfl
      | some reason =>
        have hplaced : field = "" → root.InArray false place := by
          rintro rfl
          exact hfields place _ here rfl
        exact absurd (FaultAt.pattern here hplaced hdefect) (h place _)
  · rintro ⟨hcombinations, hfields, hpatterns⟩ place e hfault
    cases hfault with
    | itemPath here unnamed outside => exact outside (hfields place _ here unnamed)
    | pattern here placed defect =>
      rw [hpatterns place _ _ here] at defect
      cases defect
    | emptyCombination here => exact hcombinations place _ here
    | emptyArrayMatch here => exact hcombinations place _ here

theorem leafCount_pos : ∀ (root : Expr) (inside : Bool), root.check inside = .ok () → 0 < root.leafCount
  | .predicate _ _ _, _, _ => Nat.one_pos
  | .combine _ [], _, h => by
    rw [check] at h
    cases h
  | .combine _ (child :: rest), inside, h => by
    have hchild : child.check inside = .ok () := by
      rw [check] at h
      cases hcheck : child.check inside with
      | ok _ => rfl
      | error e =>
        rw [hcheck] at h
        cases h
    have hpos := leafCount_pos child inside hchild
    rw [leafCount, leafCountOf]
    omega
  | .arrayMatch field _ inner, inside, h => by
    have hinner : inner.check true = .ok () := by
      rw [check] at h
      split at h
      · cases h
      · split at h
        · cases h
        · exact h
    exact leafCount_pos inner true hinner

end Expr

namespace Selector

section

variable [Regex.Engine]

theorem ofExpr?_eq_error_iff {root : Expr} {e : SelectorError} :
    ofExpr? root = .error e ↔ root.check false = .error e := by
  unfold ofExpr?
  split
  next hok =>
    refine iff_of_false nofun fun herror => ?_
    cases hok.symm.trans herror
  next e' herror => rw [herror, Except.error.injEq, Except.error.injEq]

/-- A selector is made of just the expressions that may be sent, and it asks at least one predicate. Of any other
expression the first fault in reading order is reported. -/
theorem ofExpr?_verdict (root : Expr) :
    ((∃ selector, ofExpr? root = .ok selector) ↔ root.Sendable) ∧
      (∀ e, ofExpr? root = .error e ↔ root.FirstFault false e) ∧
      ∀ selector, ofExpr? root = .ok selector → selector.root = root ∧ 1 ≤ selector.root.leafCount := by
  refine ⟨?_, ?_, ?_⟩
  · rw [exists_ofExpr?_iff, Expr.check_eq_ok_iff, Expr.faultless_iff_sendable]
  · intro e
    rw [ofExpr?_eq_error_iff, Expr.check_eq_error_iff]
  · intro selector hselector
    exact ⟨root_of_ofExpr? hselector, Expr.leafCount_pos selector.root false selector.checked⟩

end

/-- The array match that asks nothing of its items comes before the item that is in no array, and a pattern that never
closes its group after a good one. -/
theorem ofExpr?_verdict_nested :
    let item := Expr.equal "" .null
    let good := Expr.allOf [.pattern "name" "^A", .someItem "shifts" (.allOf [item, .someItem "" item])]
    let bad := Expr.allOf [.equal "a" .null, .someItem "shifts" (.allOf [item, .someItem "" (.anyOf [])]), item]
    let unclosed := Expr.anyOf [.pattern "name" "^A", .pattern "name" "(A"]
    (∃ selector, ofExpr? good = .ok selector ∧ selector.root = good ∧ 1 ≤ selector.root.leafCount) ∧
      good.Sendable ∧ bad.FirstFault false (.emptyArrayMatch "") ∧
      unclosed.FirstFault false (.invalidPattern "(A" "unclosed group") := by
  intro item good bad unclosed
  obtain ⟨haccepted, -, hselector⟩ := ofExpr?_verdict good
  have hgood : ∃ selector, ofExpr? good = .ok selector := exists_ofExpr?_iff.mpr (by decide +kernel)
  obtain ⟨selector, hmade⟩ := hgood
  have hbad := ((ofExpr?_verdict bad).2.1 (.emptyArrayMatch "")).mp (by rfl)
  have hunclosed := ((ofExpr?_verdict unclosed).2.1 (.invalidPattern "(A" "unclosed group")).mp (by rfl)
  exact ⟨⟨selector, hmade, hselector selector hmade⟩, haccepted.mp ⟨selector, hmade⟩, hbad, hunclosed⟩

end Selector

end PagedFind
