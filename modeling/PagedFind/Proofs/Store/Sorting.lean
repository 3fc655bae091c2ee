import PagedFind.Store.Basic
import PagedFind.Proofs.Json.Order
import Mathlib.Data.List.Pairwise

namespace PagedFind

theorem Fits.order {ab bc ac : Ordering} (h : Fits ab bc ac) (direction : Direction) :
    Fits (direction.order ab) (direction.order bc) (direction.order ac) := by
  cases direction with
  | ascending => exact h
  | descending =>
    obtain ⟨left, right, same⟩ := h
    refine ⟨fun h => ?_, fun h => ?_, fun h => ?_⟩
    · exact congrArg Ordering.swap (left (Ordering.swap_eq_eq.mp h))
    · exact congrArg Ordering.swap (right (Ordering.swap_eq_eq.mp h))
    · exact congrArg Ordering.swap (same (Ordering.swap_inj.mp h))

theorem Direction.order_swap (direction : Direction) (o : Ordering) :
    direction.order o.swap = (direction.order o).swap := by
  cases direction <;> rfl

theorem Direction.order_eq_eq_iff (direction : Direction) (o : Ordering) : direction.order o = .eq ↔ o = .eq := by
  cases direction with
  | ascending => exact Iff.rfl
  | descending => exact Ordering.swap_eq_eq

/-- A rearrangement that is in order and keeps what was already in order as it was. -/
structure IsStableSort {α : Type} (le : α → α → Bool) (before after : List α) : Prop where
  perm : after.Perm before
  ordered : after.Pairwise (le · ·)
  stable : ∀ run : List α, run.Sublist before → run.Pairwise (le · ·) → run.Sublist after

namespace SortField

/-- Documents compare field by field, each in its direction; a missing field is null. -/
def compareDocs : List SortField → Json → Json → Ordering
  | [], _, _ => .eq
  | s :: rest, a, b =>
    (s.direction.order (((a.at? s.field).getD .null).collate ((b.at? s.field).getD .null))).then
      (compareDocs rest a b)

def precedes (fields : List SortField) (a b : Json) : Bool := (compareDocs fields a b).isLE

theorem compareDocs_fits (fields : List SortField) (a b c : Json) :
    Fits (compareDocs fields a b) (compareDocs fields b c) (compareDocs fields a c) := by
  induction fields with
  | nil => exact ⟨fun _ => rfl, fun _ => rfl, fun _ => rfl⟩
  | cons s rest ih => exact ((Json.collate_fits _ _ _).order s.direction).then fun _ _ => ih

theorem compareDocs_swap (fields : List SortField) (a b : Json) :
    compareDocs fields a b = (compareDocs fields b a).swap := by
  induction fields with
  | nil => rfl
  | cons s rest ih =>
    simp only [compareDocs, Ordering.swap_then]
    rw [ih, Json.collate_swap, Direction.order_swap]

instance (fields : List SortField) : Std.TransCmp (compareDocs fields) where
  eq_swap := compareDocs_swap fields _ _
  isLE_trans h h' := (compareDocs_fits fields _ _ _).isLE_trans h h'

theorem precedes_trans (fields : List SortField) (a b c : Json) (hab : precedes fields a b)
    (hbc : precedes fields b c) : precedes fields a c :=
  (compareDocs_fits fields a b c).isLE_trans hab hbc

theorem precedes_total (fields : List SortField) (a b : Json) :
    (precedes fields a b || precedes fields b a) = true := by
  unfold precedes
  rw [compareDocs_swap fields b a]
  cases compareDocs fields a b <;> rfl

theorem compareKeys_map_key (fields : List SortField) (a b : Json) :
    compareKeys (fields.map (·.key a)) (fields.map (·.key b)) = compareDocs fields a b := by
  induction fields with
  | nil => rfl
  | cons s rest ih =>
    rw [List.map_cons, List.map_cons, compareDocs, ← ih]
    rfl

theorem sort_eq_mergeSort (fields : List SortField) (docs : List Json) :
    sort fields docs = docs.mergeSort (precedes fields) := by
  have keyed : (docs.mergeSort (precedes fields)).map (fun doc => (fields.map (·.key doc), doc))
      = (docs.map fun doc => (fields.map (·.key doc), doc)).mergeSort
        fun a b => (compareKeys a.1 b.1).isLE :=
    List.map_mergeSort fun a _ b _ => by rw [compareKeys_map_key]; rfl
  simp only [sort, ← keyed, List.map_map]
  exact List.map_id _

theorem sort_isStableSort (fields : List SortField) (docs : List Json) :
    IsStableSort (precedes fields) docs (sort fields docs) := by
  rw [sort_eq_mergeSort]
  exact {
    perm := List.mergeSort_perm docs _
    ordered := List.pairwise_mergeSort (precedes_trans fields) (precedes_total fields) docs
    stable := fun run hsub hrun =>
      List.sublist_mergeSort (precedes_trans fields) (precedes_total fields) hrun hsub }

def SameKeys (fields : List SortField) (a b : Json) : Prop :=
  ∀ s ∈ fields, ((a.at? s.field).getD .null).collate ((b.at? s.field).getD .null) = .eq

instance (fields : List SortField) (a b : Json) : Decidable (SameKeys fields a b) :=
  inferInstanceAs (Decidable (∀ s ∈ fields, _ = _))

theorem compareDocs_eq_iff (fields : List SortField) (a b : Json) :
    compareDocs fields a b = .eq ↔ SameKeys fields a b := by
  induction fields with
  | nil => simp [compareDocs, SameKeys]
  | cons s rest ih =>
    rw [compareDocs, Ordering.then_eq_eq, Direction.order_eq_eq_iff, ih]
    simp only [SameKeys, List.forall_mem_cons]

theorem sameKeys_of_precedes {fields : List SortField} {a b : Json} (hab : precedes fields a b)
    (hba : precedes fields b a) : SameKeys fields a b := by
  refine (compareDocs_eq_iff fields a b).mp ?_
  unfold precedes at hab hba
  rw [compareDocs_swap fields b a] at hba
  cases h : compareDocs fields a b with
  | lt => simp [h] at hba
  | eq => rfl
  | gt => simp [h] at hab

/-- Where no two documents are equal in their keys there is one order of them only, whatever order they come in. -/
theorem sort_eq_of_perm {fields : List SortField} {docs docs' : List Json} (hperm : docs.Perm docs')
    (hdistinct : docs.Pairwise fun a b => ¬SameKeys fields a b) : sort fields docs = sort fields docs' := by
  obtain ⟨hsorted, hordered, -⟩ := sort_isStableSort fields docs
  obtain ⟨hsorted', hordered', -⟩ := sort_isStableSort fields docs'
  refine List.Perm.eq_of_pairwise ?_ hordered hordered' (hsorted.trans (hperm.trans hsorted'.symm))
  intro a b ha hb hab hba
  have hsame := sameKeys_of_precedes hab hba
  have ha : a ∈ docs := hsorted.mem_iff.mp ha
  have hb : b ∈ docs := hperm.mem_iff.mpr (hsorted'.mem_iff.mp hb)
  have hsymm : Std.Symm fun a b => ¬SameKeys fields a b := ⟨fun a b hne h => hne fun s hs => by
    rw [Json.collate_swap, h s hs]
    rfl⟩
  by_contra hne
  exact hdistinct.forall ha hb hne hsame

end SortField

end PagedFind
