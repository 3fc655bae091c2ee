import PagedFind.Json.Basic

namespace PagedFind

/-- How three comparisons in an order fit together, the third being that of the outer two values. -/
structure Fits (ab bc ac : Ordering) : Prop where
  left : ab = .eq → ac = bc
  right : bc = .eq → ac = ab
  same : ab = bc → ac = ab

theorem fits_of_transCmp {α : Type} (cmp : α → α → Ordering) [Std.TransCmp cmp] (a b c : α) :
    Fits (cmp a b) (cmp b c) (cmp a c) := by
  refine ⟨fun h => Std.TransCmp.congr_left h, fun h => (Std.TransCmp.congr_right h).symm, fun h => ?_⟩
  cases hab : cmp a b with
  | lt => exact Std.TransCmp.lt_trans hab (h.symm.trans hab)
  | eq => exact Std.TransCmp.eq_trans hab (h.symm.trans hab)
  | gt => exact Std.TransCmp.gt_trans hab (h.symm.trans hab)

theorem Fits.isLE_trans {ab bc ac : Ordering} (h : Fits ab bc ac) (hab : ab.isLE) (hbc : bc.isLE) :
    ac.isLE := by
  obtain ⟨left, right, same⟩ := h
  cases ab with
  | gt => simp at hab
  | eq => exact left rfl ▸ hbc
  | lt =>
    cases bc with
    | gt => simp at hbc
    | eq => simp [right rfl]
    | lt => simp [same rfl]

/-- Later comparisons need to fit only where the earlier ones are all equal. -/
theorem Fits.then {ab bc ac ab' bc' ac' : Ordering} (h : Fits ab bc ac)
    (h' : ab = .eq → bc = .eq → Fits ab' bc' ac') :
    Fits (ab.then ab') (bc.then bc') (ac.then ac') := by
  obtain ⟨left, right, same⟩ := h
  cases ab with
  | eq =>
    cases left rfl
    cases bc with
    | eq => exact h' rfl rfl
    | lt => exact ⟨fun _ => rfl, by simp, Eq.symm⟩
    | gt => exact ⟨fun _ => rfl, by simp, Eq.symm⟩
  | lt =>
    cases bc with
    | eq => cases right rfl; exact ⟨by simp, fun _ => rfl, fun _ => rfl⟩
    | lt => cases same rfl; exact ⟨by simp, by simp, fun _ => rfl⟩
    | gt => exact ⟨by simp, by simp, by simp⟩
  | gt =>
    cases bc with
    | eq => cases right rfl; exact ⟨by simp, fun _ => rfl, fun _ => rfl⟩
    | gt => cases same rfl; exact ⟨by simp, by simp, fun _ => rfl⟩
    | lt => exact ⟨by simp, by simp, by simp⟩

namespace Json

theorem collate_eq_rank_then (a b : Json) :
    collate a b = (compare a.rank b.rank).then (collate a b) := by
  cases h : compare a.rank b.rank with
  | eq => rfl
  | lt => cases a <;> cases b <;> first | rfl | simp [rank, Nat.compare_eq_lt] at h
  | gt => cases a <;> cases b <;> first | rfl | simp [rank, Nat.compare_eq_gt] at h

/-- Kinds compare first, so only arrays and objects are left to look into. -/
theorem collate_fits_of_items {a b c : Json}
    (items : ∀ as bs cs, a = .array as → b = .array bs → c = .array cs →
      Fits (collateItems as bs) (collateItems bs cs) (collateItems as cs))
    (entries : ∀ as bs cs, a = .object as → b = .object bs → c = .object cs →
      Fits (collateEntries as bs) (collateEntries bs cs) (collateEntries as cs)) :
    Fits (collate a b) (collate b c) (collate a c) := by
  rw [collate_eq_rank_then a b, collate_eq_rank_then b c, collate_eq_rank_then a c]
  refine (fits_of_transCmp compare a.rank b.rank c.rank).then fun hab hbc => ?_
  cases a <;> cases b <;> first | simp [rank] at hab; done | cases c
  all_goals first | simp [rank] at hbc; done | skip
  case null => exact ⟨fun _ => rfl, fun _ => rfl, fun _ => rfl⟩
  case bool a b c => exact fits_of_transCmp compare a b c
  case number a b c => exact fits_of_transCmp compare a.units b.units c.units
  case string a b c => exact @fits_of_transCmp String compare _ a b c
  case array as bs cs => exact items as bs cs rfl rfl rfl
  case object as bs cs => exact entries as bs cs rfl rfl rfl

mutual

theorem collate_fits : ∀ a b c : Json, Fits (collate a b) (collate b c) (collate a c)
  | .array as, _, _ => collate_fits_of_items
      (fun _ bs cs h _ _ => by cases h; exact collateItems_fits as bs cs) (by simp)
  | .object as, _, _ => collate_fits_of_items (by simp)
      (fun _ bs cs h _ _ => by cases h; exact collateEntries_fits as bs cs)
  | .null, _, _ => collate_fits_of_items (by simp) (by simp)
  | .bool _, _, _ => collate_fits_of_items (by simp) (by simp)
  | .number _, _, _ => collate_fits_of_items (by simp) (by simp)
  | .string _, _, _ => collate_fits_of_items (by simp) (by simp)

theorem collateItems_fits : ∀ as bs cs : List Json,
    Fits (collateItems as bs) (collateItems bs cs) (collateItems as cs)
  | [], bs, cs => by
    cases bs <;> cases cs <;> constructor <;> simp [collateItems]
  | _ :: _, [], cs => by
    cases cs <;> constructor <;> simp [collateItems, eq_comm]
  | _ :: _, _ :: _, [] => by
    constructor <;> simp [collateItems, eq_comm]
  | a :: as, b :: bs, c :: cs => by
    simp only [collateItems]
    exact (collate_fits a b c).then fun _ _ => collateItems_fits as bs cs

theorem collateEntries_fits : ∀ as bs cs : List (String × Json),
    Fits (collateEntries as bs) (collateEntries bs cs) (collateEntries as cs)
  | [], bs, cs => by
    cases bs <;> cases cs <;> constructor <;> simp [collateEntries]
  | _ :: _, [], cs => by
    cases cs <;> constructor <;> simp [collateEntries, eq_comm]
  | _ :: _, _ :: _, [] => by
    constructor <;> simp [collateEntries, eq_comm]
  | a :: as, b :: bs, c :: cs => by
    simp only [collateEntries]
    exact (collateEntry_fits a b c).then fun _ _ => collateEntries_fits as bs cs

theorem collateEntry_fits : ∀ a b c : String × Json,
    Fits (collateEntry a b) (collateEntry b c) (collateEntry a c)
  | (k, v), (l, w), (m, x) => by
    simp only [collateEntry]
    exact (@fits_of_transCmp String compare _ k l m).then fun _ _ => collate_fits v w x

end

theorem collate_swap_of_items {a b : Json}
    (items : ∀ as bs, a = .array as → b = .array bs → collateItems as bs = (collateItems bs as).swap)
    (entries : ∀ as bs, a = .object as → b = .object bs →
      collateEntries as bs = (collateEntries bs as).swap) :
    collate a b = (collate b a).swap := by
  cases h : compare a.rank b.rank with
  | lt =>
    have h' : compare b.rank a.rank = .gt := Std.OrientedCmp.gt_of_lt h
    rw [collate_eq_rank_then a b, collate_eq_rank_then b a, h, h']
    rfl
  | gt =>
    have h' : compare b.rank a.rank = .lt := Std.OrientedCmp.lt_of_gt h
    rw [collate_eq_rank_then a b, collate_eq_rank_then b a, h, h']
    rfl
  | eq =>
    cases a <;> cases b <;> first | simp [rank] at h; done | skip
    case null => rfl
    case bool a b => exact Std.OrientedOrd.eq_swap
    case number a b => exact Std.OrientedOrd.eq_swap
    case string a b => exact @Std.OrientedOrd.eq_swap String _ _ a b
    case array as bs => exact items as bs rfl rfl
    case object as bs => exact entries as bs rfl rfl

mutual

theorem collate_swap : ∀ a b : Json, collate a b = (collate b a).swap
  | .array as, _ => collate_swap_of_items
      (fun _ bs h _ => by cases h; exact collateItems_swap as bs) (by simp)
  | .object as, _ => collate_swap_of_items (by simp)
      (fun _ bs h _ => by cases h; exact collateEntries_swap as bs)
  | .null, _ => collate_swap_of_items (by simp) (by simp)
  | .bool _, _ => collate_swap_of_items (by simp) (by simp)
  | .number _, _ => collate_swap_of_items (by simp) (by simp)
  | .string _, _ => collate_swap_of_items (by simp) (by simp)

theorem collateItems_swap : ∀ as bs : List Json, collateItems as bs = (collateItems bs as).swap
  | [], bs => by cases bs <;> rfl
  | _ :: _, [] => rfl
  | a :: as, b :: bs => by
    simp only [collateItems, Ordering.swap_then]
    rw [collate_swap a b, collateItems_swap as bs]

theorem collateEntries_swap : ∀ as bs : List (String × Json),
    collateEntries as bs = (collateEntries bs as).swap
  | [], bs => by cases bs <;> rfl
  | _ :: _, [] => rfl
  | a :: as, b :: bs => by
    simp only [collateEntries, Ordering.swap_then]
    rw [collateEntry_swap a b, collateEntries_swap as bs]

theorem collateEntry_swap : ∀ a b : String × Json, collateEntry a b = (collateEntry b a).swap
  | (k, v), (l, w) => by
    simp only [collateEntry, Ordering.swap_then]
    have keys : Text.compare k l = (Text.compare l k).swap := @Std.OrientedOrd.eq_swap String _ _ k l
    rw [collate_swap v w, keys]

end

instance : Std.TransCmp collate where
  eq_swap := collate_swap _ _
  isLE_trans h h' := (collate_fits _ _ _).isLE_trans h h'

end Json

end PagedFind
