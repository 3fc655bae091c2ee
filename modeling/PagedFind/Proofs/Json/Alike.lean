import PagedFind.Proofs.Json.Order
import Mathlib.Data.List.Forall2

namespace PagedFind

theorem Text.compare_eq_iff {a b : String} : Text.compare a b = .eq ↔ a = b :=
  @Std.LawfulEqCmp.compare_eq_iff_eq String Ord.compare _ a b

theorem Fits.not_gt_trans {ab bc ac : Ordering} (h : Fits ab bc ac) (hab : ab ≠ .gt) (hbc : bc ≠ .gt) :
    ac ≠ .gt ∧ (ab = .lt ∨ bc = .lt → ac = .lt) := by
  obtain ⟨left, right, same⟩ := h
  cases ab with
  | gt => exact absurd rfl hab
  | eq =>
    have hac : ac = bc := left rfl
    rw [hac]
    exact ⟨hbc, fun hlt => hlt.resolve_left (by decide)⟩
  | lt =>
    have hac : ac = .lt := by
      cases bc with
      | gt => exact absurd rfl hbc
      | eq => exact right rfl
      | lt => exact same rfl
    rw [hac]
    exact ⟨by decide, fun _ => rfl⟩

namespace Json

/-- Two values of one structure, whose numbers have the same binary64 images: arrays are alike item by item, and
objects have the same keys with values that are alike. -/
inductive Alike : Json → Json → Prop
  | null : Alike .null .null
  | bool (value : Bool) : Alike (.bool value) (.bool value)
  | number {a b : Number} (image : a.units = b.units) : Alike (.number a) (.number b)
  | string (value : String) : Alike (.string value) (.string value)
  | array {as bs : List Json} (items : List.Forall₂ Alike as bs) : Alike (.array as) (.array bs)
  | object {as bs : List (String × Json)} (keys : as.map Prod.fst = bs.map Prod.fst)
      (values : List.Forall₂ Alike (as.map Prod.snd) (bs.map Prod.snd)) : Alike (.object as) (.object bs)

/-- Kinds compare first, so values of two kinds neither collate the same nor are alike. -/
theorem not_alike_of_rank_ne {a b : Json} (h : a.rank ≠ b.rank) : ¬Alike a b := by
  rintro (_ | _ | _ | _ | _ | _) <;> exact h rfl

theorem collate_ne_eq_of_rank_ne {a b : Json} (h : a.rank ≠ b.rank) : collate a b ≠ .eq := by
  rw [collate_eq_rank_then, Ne, Ordering.then_eq_eq, Nat.compare_eq_eq]
  exact fun heq => h heq.1

theorem alike_bool_iff {a b : Bool} : Alike (.bool a) (.bool b) ↔ a = b :=
  ⟨fun h => by cases h; rfl, fun h => h ▸ .bool a⟩

theorem alike_number_iff {a b : Number} : Alike (.number a) (.number b) ↔ a.units = b.units :=
  ⟨fun h => by cases h; assumption, .number⟩

theorem alike_string_iff {a b : String} : Alike (.string a) (.string b) ↔ a = b :=
  ⟨fun h => by cases h; rfl, fun h => h ▸ .string a⟩

theorem alike_array_iff {as bs : List Json} : Alike (.array as) (.array bs) ↔ List.Forall₂ Alike as bs :=
  ⟨fun h => by cases h; assumption, .array⟩

theorem alike_object_iff {as bs : List (String × Json)} :
    Alike (.object as) (.object bs) ↔
      as.map Prod.fst = bs.map Prod.fst ∧ List.Forall₂ Alike (as.map Prod.snd) (bs.map Prod.snd) :=
  ⟨fun h => by cases h; exact ⟨‹_›, ‹_›⟩, fun h => .object h.1 h.2⟩

theorem collate_eq_iff_alike_of_items {a b : Json}
    (items : ∀ as bs, a = .array as → b = .array bs →
      (collateItems as bs = .eq ↔ List.Forall₂ Alike as bs))
    (entries : ∀ as bs, a = .object as → b = .object bs → (collateEntries as bs = .eq ↔
      as.map Prod.fst = bs.map Prod.fst ∧ List.Forall₂ Alike (as.map Prod.snd) (bs.map Prod.snd))) :
    collate a b = .eq ↔ Alike a b := by
  by_cases hrank : a.rank = b.rank
  · cases a <;> cases b <;> first | simp [rank] at hrank; done | skip
    case null => exact iff_of_true rfl .null
    case bool a b => exact (@Std.LawfulEqCmp.compare_eq_iff_eq Bool compare _ a b).trans alike_bool_iff.symm
    case number a b =>
      exact (@Std.LawfulEqCmp.compare_eq_iff_eq Int compare _ a.units b.units).trans alike_number_iff.symm
    case string a b => exact Text.compare_eq_iff.trans alike_string_iff.symm
    case array as bs => exact (items as bs rfl rfl).trans alike_array_iff.symm
    case object as bs => exact (entries as bs rfl rfl).trans alike_object_iff.symm
  · exact iff_of_false (collate_ne_eq_of_rank_ne hrank) (not_alike_of_rank_ne hrank)

mutual

theorem collate_eq_iff_alike : ∀ a b : Json, collate a b = .eq ↔ Alike a b
  | .array as, _ => collate_eq_iff_alike_of_items
      (fun _ bs h _ => by cases h; exact collateItems_eq_iff as bs) (by simp)
  | .object as, _ => collate_eq_iff_alike_of_items (by simp)
      (fun _ bs h _ => by cases h; exact collateEntries_eq_iff as bs)
  | .null, _ => collate_eq_iff_alike_of_items (by simp) (by simp)
  | .bool _, _ => collate_eq_iff_alike_of_items (by simp) (by simp)
  | .number _, _ => collate_eq_iff_alike_of_items (by simp) (by simp)
  | .string _, _ => collate_eq_iff_alike_of_items (by simp) (by simp)

theorem collateItems_eq_iff : ∀ as bs : List Json, collateItems as bs = .eq ↔ List.Forall₂ Alike as bs
  | [], bs => by cases bs <;> simp [collateItems]
  | _ :: _, [] => by simp [collateItems]
  | a :: as, b :: bs => by
    rw [collateItems, Ordering.then_eq_eq, List.forall₂_cons, collate_eq_iff_alike a b,
      collateItems_eq_iff as bs]

theorem collateEntries_eq_iff : ∀ as bs : List (String × Json), collateEntries as bs = .eq ↔
    as.map Prod.fst = bs.map Prod.fst ∧ List.Forall₂ Alike (as.map Prod.snd) (bs.map Prod.snd)
  | [], bs => by cases bs <;> simp [collateEntries]
  | _ :: _, [] => by simp [collateEntries]
  | a :: as, b :: bs => by
    have hentry := collateEntry_eq_iff a b
    have hrest := collateEntries_eq_iff as bs
    rw [collateEntries, Ordering.then_eq_eq, hentry, hrest]
    simp only [List.map_cons, List.cons.injEq, List.forall₂_cons]
    exact and_and_and_comm

theorem collateEntry_eq_iff : ∀ a b : String × Json, collateEntry a b = .eq ↔ a.1 = b.1 ∧ Alike a.2 b.2
  | (k, v), (l, w) => by
    rw [collateEntry, Ordering.then_eq_eq, Text.compare_eq_iff, collate_eq_iff_alike v w]

end

theorem valuesEqual_iff_alike {a b : Json} : a.valuesEqual b = true ↔ Alike a b := by
  rw [valuesEqual, beq_iff_eq, collate_eq_iff_alike]

/-- Values that are alike compare in the same way with all others. -/
theorem Alike.collate_congr {a b c d : Json} (hab : Alike a b) (hcd : Alike c d) :
    collate a c = collate b d :=
  (Std.TransCmp.congr_left ((collate_eq_iff_alike a b).mpr hab)).trans
    (Std.TransCmp.congr_right ((collate_eq_iff_alike c d).mpr hcd))

/-- Collation is a total preorder of all values, and the values that it does not tell apart are those that are
alike. -/
theorem collate_totalPreorder (a b c : Json) :
    collate a a = .eq ∧ collate b a = (collate a b).swap ∧
      (collate a b ≠ .gt → collate b c ≠ .gt →
        collate a c ≠ .gt ∧ (collate a b = .lt ∨ collate b c = .lt → collate a c = .lt)) ∧
      (collate a b = .eq ↔ Alike a b) := by
  refine ⟨Std.ReflCmp.compare_self, collate_swap b a, fun hab hbc => ?_, collate_eq_iff_alike a b⟩
  exact (collate_fits a b c).not_gt_trans hab hbc

/-- One is one whether it is written with a point or not; null before false, deep in an array. -/
theorem collate_totalPreorder_nested :
    let one : Double := ⟨false, Nat.pow 2 52, 1022, by decide, by decide, .inl (by decide)⟩
    let a : Json := .array [.nat 1, .object [("k", .null)]]
    let b : Json := .array [.number (.double one), .object [("k", .null)]]
    let c : Json := .array [.nat 1, .object [("k", .bool false)]]
    collate a b ≠ .gt ∧ collate b c ≠ .gt ∧ collate b c = .lt ∧ collate a c = .lt ∧ Alike a b := by
  intro one a b c
  have hab : collate a b = .eq := by decide +kernel
  have hbc : collate b c = .lt := by decide +kernel
  obtain ⟨-, -, htrans, halike⟩ := collate_totalPreorder a b c
  have hac := (htrans (by rw [hab]; decide) (by rw [hbc]; decide)).2 (.inr hbc)
  exact ⟨by rw [hab]; decide, by rw [hbc]; decide, hbc, hac, halike.mp hab⟩

end Json

end PagedFind
