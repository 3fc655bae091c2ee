import PagedFind.Proofs.Number.Nearest
import PagedFind.Proofs.Selector.Meaning
import PagedFind.Proofs.Store.Sorting
import PagedFind.Regex.Match

namespace PagedFind

def Number.InWord (n : Int) : Prop := -2 ^ 63 ≤ n ∧ n < 2 ^ 64

instance (n : Int) : Decidable (Number.InWord n) := inferInstanceAs (Decidable (_ ∧ _))

theorem Number.InWord.natAbs_lt {n : Int} (hn : Number.InWord n) : n.natAbs < 2 ^ 64 := by
  obtain ⟨hlow, hhigh⟩ := hn
  omega

/-- An integer rounded to fifty-three significant bits. -/
def Number.rounded (n : Int) : Int := n.sign * roundTo53 n.natAbs

theorem Number.units_integer (n : Int) : (Number.integer n).units = Number.rounded n * unitsPerOne := by
  rw [units, rounded, Int.natCast_mul, Int.mul_assoc]

theorem Number.rounded_of_natAbs_le {n : Int} (hn : n.natAbs ≤ 2 ^ 53) : Number.rounded n = n := by
  rw [rounded, roundTo53_of_le hn, Int.sign_mul_natAbs]

theorem Number.rounded_dist_le {n : Int} (hn : n.natAbs < 2 ^ 64) : (Number.rounded n - n).natAbs ≤ 1024 := by
  have := roundTo53_dist_le hn
  unfold rounded
  rcases Int.sign_trichotomy n with hpos | hzero | hneg
  · have := Int.sign_eq_one_iff_pos.mp hpos
    rw [hpos]
    omega
  · have := Int.sign_eq_zero_iff_zero.mp hzero
    rw [hzero]
    omega
  · have := Int.sign_eq_neg_one_iff_neg.mp hneg
    rw [hneg]
    omega

theorem compare_mul_right (a b : Int) {c : Int} (hc : 0 < c) : compare (a * c) (b * c) = compare a b := by
  rcases Int.lt_trichotomy a b with hlt | rfl | hgt
  · rw [compare_lt_iff_lt.mpr hlt, compare_lt_iff_lt.mpr (Int.mul_lt_mul_of_pos_right hlt hc)]
  · rw [compare_eq_iff_eq.mpr rfl, compare_eq_iff_eq.mpr rfl]
  · rw [compare_gt_iff_gt.mpr hgt, compare_gt_iff_gt.mpr (Int.mul_lt_mul_of_pos_right hgt hc)]

namespace Json

variable {a b : Int}

theorem collate_integer_eq_rounded (a b : Int) :
    collate (.number (.integer a)) (.number (.integer b)) = compare (Number.rounded a) (Number.rounded b) := by
  have hpos : (0 : Int) < unitsPerOne := Int.natCast_pos.mpr unitsPerOne_pos
  rw [collate, Number.units_integer, Number.units_integer, compare_mul_right _ _ hpos]

theorem collate_integer_of_small (ha : a.natAbs ≤ 2 ^ 53) (hb : b.natAbs ≤ 2 ^ 53) :
    collate (.number (.integer a)) (.number (.integer b)) = compare a b := by
  rw [collate_integer_eq_rounded, Number.rounded_of_natAbs_le ha, Number.rounded_of_natAbs_le hb]

theorem collate_integer_of_distant (ha : Number.InWord a) (hb : Number.InWord b) (hab : 2048 < (a - b).natAbs) :
    collate (.number (.integer a)) (.number (.integer b)) = compare a b := by
  have hclosea := Number.rounded_dist_le ha.natAbs_lt
  have hcloseb := Number.rounded_dist_le hb.natAbs_lt
  rw [collate_integer_eq_rounded]
  rcases Int.lt_trichotomy a b with hlt | rfl | hgt
  · rw [compare_lt_iff_lt.mpr hlt, compare_lt_iff_lt]
    omega
  · omega
  · rw [compare_gt_iff_gt.mpr hgt, compare_gt_iff_gt]
    omega

theorem collate_integer_eq_nearest {x y : Double} (ha : Number.InWord a) (hb : Number.InWord b) (hx : x.IsNearest a)
    (hy : y.IsNearest b) :
    collate (.number (.integer a)) (.number (.integer b)) = compare x.units y.units := by
  obtain ⟨u, hu, hunits⟩ := Double.exists_isNearest ha.natAbs_lt
  obtain ⟨v, hv, hvunits⟩ := Double.exists_isNearest hb.natAbs_lt
  rw [collate, ← hunits, ← hvunits, hx.units_eq hu, hy.units_eq hv]

theorem collate_integer_ne_gt (ha : Number.InWord a) (hb : Number.InWord b) (hab : a ≤ b) :
    collate (.number (.integer a)) (.number (.integer b)) ≠ .gt := by
  obtain ⟨x, hx, -⟩ := Double.exists_isNearest ha.natAbs_lt
  obtain ⟨y, hy, -⟩ := Double.exists_isNearest hb.natAbs_lt
  rw [collate_integer_eq_nearest ha hb hx hy, Ne, compare_gt_iff_gt, not_lt]
  rcases Int.lt_or_eq_of_le hab with hlt | rfl
  · exact hx.mono hy hlt
  · exact (hx.units_eq hy).le

theorem sort_pairwise (field : String) (direction : Direction) (docs : List Json) :
    (SortField.sort [⟨field, direction⟩] docs).Pairwise fun d e => ∀ v w, d.at? field = some v →
      e.at? field = some w → direction.order (v.collate w) ≠ .gt := by
  refine (SortField.sort_isStableSort _ docs).ordered.imp ?_
  intro d e hprecedes v w hv hw
  simp only [SortField.precedes, SortField.compareDocs, hv, hw, Option.getD_some] at hprecedes
  intro hgt
  rw [hgt] at hprecedes
  cases hprecedes

/-- Two integers collate, compare and sort as the binary64 numbers that they round to: never the other way round, and
as themselves where both have at most fifty-three bits or they are more than `2 ^ 11` apart. -/
theorem collate_integer [Regex.Engine] (ha : Number.InWord a) (hb : Number.InWord b) :
    let v : Json := .number (.integer a)
    let w : Json := .number (.integer b)
    (∃ x y : Double, x.IsNearest a ∧ y.IsNearest b) ∧
    (∀ x y : Double, x.IsNearest a → y.IsNearest b → v.collate w = compare x.units y.units) ∧
    (a ≤ b → v.collate w ≠ .gt) ∧ (b ≤ a → v.collate w ≠ .lt) ∧
    (a.natAbs ≤ 2 ^ 53 ∧ b.natAbs ≤ 2 ^ 53 ∨ 2 ^ 11 < (a - b).natAbs → v.collate w = compare a b) ∧
    (v.valuesEqual w = true ↔ v.collate w = .eq) ∧
    (∀ c : Comparison, (Operator.compare c).holds w (some v) = true ↔ c.Relates (v.collate w)) ∧
    ∀ (field : String) (direction : Direction) (docs : List Json),
      (SortField.sort [⟨field, direction⟩] docs).Pairwise fun d e =>
        d.at? field = some v → e.at? field = some w → direction.order (v.collate w) ≠ .gt := by
  intro v w
  obtain ⟨x, hx, -⟩ := Double.exists_isNearest ha.natAbs_lt
  obtain ⟨y, hy, -⟩ := Double.exists_isNearest hb.natAbs_lt
  refine ⟨⟨x, y, hx, hy⟩, fun x y => collate_integer_eq_nearest ha hb, collate_integer_ne_gt ha hb, ?_, ?_, ?_, ?_, ?_⟩
  · intro hba hlt
    have hswap : collate w v = .gt := by rw [collate_swap, hlt]; rfl
    exact collate_integer_ne_gt hb ha hba hswap
  · rintro (⟨hsmalla, hsmallb⟩ | hdistant)
    · exact collate_integer_of_small hsmalla hsmallb
    · exact collate_integer_of_distant ha hb hdistant
  · exact beq_iff_eq
  · intro c
    have haccepts : (Operator.compare c).holds w (some v) = true ↔ (Operator.compare c).Accepts w (some v) :=
      Operator.holds_iff_accepts
    simpa [Operator.Accepts] using haccepts
  · intro field direction docs
    exact (sort_pairwise field direction docs).imp fun h => h v w

/-- The greatest integer and the least, and two neighbours with fifty-three bits. -/
theorem collate_integer_extremes :
    Number.InWord 18446744073709551615 ∧ Number.InWord (-9223372036854775808) ∧
      collate (.number (.integer 18446744073709551615)) (.number (.integer (-9223372036854775808))) = .gt ∧
      collate (.number (.integer 9007199254740991)) (.number (.integer 9007199254740992)) = .lt := by
  have hgreatest : Number.InWord 18446744073709551615 := by decide
  have hleast : Number.InWord (-9223372036854775808) := by decide
  have hdistant := (collate_integer hgreatest hleast).2.2.2.2.1 (.inr (by decide))
  have hodd : Number.InWord 9007199254740991 := by decide
  have heven : Number.InWord 9007199254740992 := by decide
  have hneighbours := (collate_integer hodd heven).2.2.2.2.1 (.inl (by decide))
  exact ⟨hgreatest, hleast, hdistant, hneighbours⟩

/-- `2 ^ 53` and its successor are told apart by nothing, and a sort leaves them the wrong way round. -/
theorem collate_integer_confused :
    let v : Json := .number (.integer 9007199254740992)
    let w : Json := .number (.integer 9007199254740993)
    Number.InWord 9007199254740992 ∧ Number.InWord 9007199254740993 ∧
      collate v w ≠ compare (9007199254740992 : Int) 9007199254740993 ∧ v.valuesEqual w = true ∧
      (Operator.compare .equal).holds w (some v) = true ∧ (Operator.compare .less).holds w (some v) = false ∧
      SortField.sort [⟨"n", .ascending⟩] [.object [("n", w)], .object [("n", v)]] =
        [.object [("n", w)], .object [("n", v)]] := by
  intro v w
  refine ⟨by decide, by decide, by decide +kernel, by decide +kernel, by decide +kernel, by decide +kernel, ?_⟩
  rw [SortField.sort_eq_mergeSort]
  exact List.mergeSort_of_pairwise (by decide +kernel)

end Json

end PagedFind
