import PagedFind.Number.Double
import Mathlib.Tactic.Ring

namespace PagedFind

theorem unitsPerOne_eq : unitsPerOne = 2 ^ 1074 := by decide +kernel

theorem unitsPerOne_pos : 0 < unitsPerOne := by decide +kernel

/-- A rounded quotient is at most half the divisor away, and even where it is just that far. -/
structure IsRounded (num den q : Nat) : Prop where
  below : 2 * num ≤ 2 * (q * den) + den
  above : 2 * (q * den) ≤ 2 * num + den
  even : 2 * num = 2 * (q * den) + den ∨ 2 * (q * den) = 2 * num + den → q % 2 = 0

theorem isRounded_roundDiv (num : Nat) {den : Nat} (hden : 0 < den) : IsRounded num den (roundDiv num den) := by
  have hdiv : num / den * den + num % den = num := Nat.div_add_mod' num den
  have hmod : num % den < den := Nat.mod_lt num hden
  have hnext : (num / den + 1) * den = num / den * den + den := Nat.succ_mul ..
  unfold roundDiv
  simp only
  split
  · constructor <;> omega
  · split
    · constructor <;> omega
    · rcases Nat.mod_two_eq_zero_or_one (num / den) with heven | hodd
      · rw [heven, Nat.add_zero]
        constructor <;> omega
      · rw [hodd]
        constructor <;> omega

theorem roundDiv_mul_right (num den : Nat) {c : Nat} (hc : 0 < c) :
    roundDiv (num * c) (den * c) = roundDiv num den := by
  unfold roundDiv
  simp only [Nat.mul_div_mul_right _ _ hc, Nat.mul_mod_mul_right, ← Nat.mul_assoc, Nat.mul_lt_mul_right hc]

theorem mul_apart (k q step : Nat) :
    k * step = q * step ∨ k * step + step ≤ q * step ∨ q * step + step ≤ k * step := by
  rcases Nat.lt_trichotomy k q with hlt | heq | hgt
  · exact .inr (.inl (Nat.succ_mul k step ▸ Nat.mul_le_mul_right step hlt))
  · exact .inl (by rw [heq])
  · exact .inr (.inr (Nat.succ_mul q step ▸ Nat.mul_le_mul_right step hgt))

/-- The step that leaves a number fifty-three bits leaves them to its rounded quotient too, or one more if it carries. -/
theorem IsRounded.bounds {num s q : Nat} (hs : num.log2 - 52 = s) (hq : IsRounded num (2 ^ s) q) :
    q ≤ 2 ^ 53 ∧ (s ≠ 0 → 2 ^ 52 ≤ q ∧ 2 ^ 52 * 2 ^ s ≤ num) := by
  obtain ⟨below, above, -⟩ := hq
  have hpos : 0 < 2 ^ s := Nat.two_pow_pos s
  have hbelow : num < 2 ^ 53 * 2 ^ s := by
    rw [← Nat.pow_add]
    exact Nat.lt_log2_self.trans_le (Nat.pow_le_pow_right (by decide) (by omega))
  refine ⟨?_, fun hne => ?_⟩
  · have := mul_apart q (2 ^ 53) (2 ^ s)
    exact Nat.le_of_mul_le_mul_right (by omega) hpos
  · have hnum : num ≠ 0 := by
      rintro rfl
      exact hne (by rw [← hs]; rfl)
    have hstep : 2 ^ 52 * 2 ^ s ≤ num := by
      rw [← Nat.pow_add]
      exact (Nat.pow_le_pow_right (by decide) (by omega)).trans (Nat.log2_self_le hnum)
    have := mul_apart (2 ^ 52) q (2 ^ s)
    exact ⟨Nat.le_of_mul_le_mul_right (by omega) hpos, hstep⟩

theorem roundDiv_one (n : Nat) : roundDiv n 1 = n := by
  simp [roundDiv, Nat.mod_one]

theorem log2_mul_two_pow {n : Nat} (hn : n ≠ 0) (j : Nat) : (n * 2 ^ j).log2 = n.log2 + j := by
  induction j with
  | zero => simp
  | succ j ih =>
    have hne : n * 2 ^ j ≠ 0 := Nat.mul_ne_zero hn (Nat.two_pow_pos j).ne'
    rw [Nat.pow_succ, ← Nat.mul_assoc, Nat.mul_comm _ 2, Nat.log2_two_mul hne, ih]
    rfl

theorem roundTo53_of_log2_le {n : Nat} (hn : n.log2 ≤ 52) : roundTo53 n = n := by
  have hscale : n.log2 - 52 = 0 := by omega
  simp [roundTo53, hscale, roundDiv_one]

theorem roundTo53_of_le {n : Nat} (hn : n ≤ 2 ^ 53) : roundTo53 n = n := by
  rcases Nat.lt_or_eq_of_le hn with hlt | rfl
  · by_cases hzero : n = 0
    · subst hzero
      rfl
    have := (Nat.log2_lt hzero).mpr hlt
    exact roundTo53_of_log2_le (by omega)
  · decide +kernel

theorem roundTo53_dist_le {n : Nat} (hn : n < 2 ^ 64) : n ≤ roundTo53 n + 1024 ∧ roundTo53 n ≤ n + 1024 := by
  by_cases hzero : n = 0
  · subst hzero
    decide +kernel
  have hlog := (Nat.log2_lt hzero).mpr hn
  have hstep : 2 ^ (n.log2 - 52) ≤ 2 ^ 11 := Nat.pow_le_pow_right (by decide) (by omega)
  obtain ⟨below, above, -⟩ := isRounded_roundDiv n (Nat.two_pow_pos (n.log2 - 52))
  simp only [roundTo53, Nat.pow_eq]
  omega

/-- Rounding to fifty-three bits commutes with a shift that leaves room for them. -/
theorem roundDiv_shifted (n : Nat) {j : Nat} (hj : 52 ≤ j) :
    roundDiv (n * 2 ^ j) (2 ^ ((n * 2 ^ j).log2 - 52)) * 2 ^ ((n * 2 ^ j).log2 - 52) = roundTo53 n * 2 ^ j := by
  by_cases hn : n = 0
  · subst hn
    simp [roundDiv, roundTo53]
  rw [log2_mul_two_pow hn]
  -- A number of fewer than fifty-three bits is not rounded and has room for the shift; any other drops the same bits.
  rcases Nat.lt_or_ge n.log2 52 with hlt | hge
  · have hshift : 2 ^ j = 2 ^ (52 - n.log2) * 2 ^ (n.log2 + j - 52) := by
      rw [← Nat.pow_add]
      congr 1
      omega
    have hround := roundDiv_mul_right (n * 2 ^ (52 - n.log2)) 1 (Nat.two_pow_pos (n.log2 + j - 52))
    rw [Nat.one_mul, roundDiv_one] at hround
    rw [roundTo53_of_log2_le hlt.le, hshift, ← Nat.mul_assoc, hround]
  · have hshift : n.log2 + j - 52 = n.log2 - 52 + j := by omega
    rw [hshift, Nat.pow_add, roundDiv_mul_right _ _ (Nat.two_pow_pos j), ← Nat.mul_assoc]
    rfl

namespace Double

/-- The binary64 number that an integer rounds to. -/
structure IsNearest (x : Double) (n : Int) : Prop where
  closest : ∀ y : Double, (n * unitsPerOne - x.units).natAbs ≤ (n * unitsPerOne - y.units).natAbs
  even : ∀ y : Double, (n * unitsPerOne - y.units).natAbs = (n * unitsPerOne - x.units).natAbs →
    y.units ≠ x.units → x.mantissa % 2 = 0

@[simp] theorem units_neg (x : Double) : x.neg.units = -x.units := by
  unfold neg units
  cases x.negative <;> simp [magnitude]

theorem units_of_not_negative {x : Double} (h : x.negative = false) : x.units = x.magnitude := by
  simp [units, h]

theorem units_cases (x : Double) : x.units = x.magnitude ∨ x.units = -(x.magnitude : Int) := by
  unfold units
  split
  · exact .inr rfl
  · exact .inl rfl

theorem IsNearest.neg {x : Double} {n : Int} (h : x.IsNearest n) : x.neg.IsNearest (-n) where
  closest y := by
    have := h.closest y.neg
    rw [units_neg] at this ⊢
    rw [Int.neg_mul]
    omega
  even y := by
    have := h.even y.neg
    rw [units_neg] at this ⊢
    rw [Int.neg_mul]
    intro heq hne
    exact this (by omega) (by omega)

theorem magnitude_lt (x : Double) : x.magnitude < 2 ^ 53 * 2 ^ x.scale :=
  Nat.mul_lt_mul_of_pos_right x.mantissa_lt (Nat.two_pow_pos _)

theorem multiple_or_below (y : Double) (s : Nat) :
    (∃ k, y.magnitude = k * 2 ^ s) ∨ (s ≠ 0 ∧ y.magnitude < 2 ^ 52 * 2 ^ s) := by
  rcases Nat.lt_or_ge y.scale s with hlt | hle
  · refine .inr ⟨by omega, ?_⟩
    calc y.magnitude < 2 ^ 53 * 2 ^ y.scale := y.magnitude_lt
      _ = 2 ^ 52 * 2 ^ (y.scale + 1) := by ring
      _ ≤ 2 ^ 52 * 2 ^ s := Nat.mul_le_mul_left _ (Nat.pow_le_pow_right (by decide) hlt)
  · refine .inl ⟨y.mantissa * 2 ^ (y.scale - s), ?_⟩
    rw [Nat.mul_assoc, ← Nat.pow_add, Nat.sub_add_cancel hle]
    rfl

/-- An integer is nearest to its rounded quotient by a step, if the step is the smallest or the integer has at
least `2 ^ 52` of it. -/
theorem isNearest_of_isRounded {x : Double} {n s q : Nat} (hsign : x.negative = false)
    (hx : x.magnitude = q * 2 ^ s) (heven : q % 2 = 0 → x.mantissa % 2 = 0)
    (hstep : s ≠ 0 → 2 ^ 52 * 2 ^ s ≤ n * unitsPerOne) (hq : IsRounded (n * unitsPerOne) (2 ^ s) q) :
    x.IsNearest n := by
  obtain ⟨below, above, even⟩ := hq
  have hpos : 0 < 2 ^ s := Nat.two_pow_pos s
  have hunits : x.units = (q * 2 ^ s : Nat) := by rw [units_of_not_negative hsign, hx]
  -- Every other number is a step away, or so far below that the first multiple with `2 ^ 52` steps is closer.
  have hgrid (y : Double) : y.magnitude = q * 2 ^ s ∨ y.magnitude + 2 ^ s ≤ q * 2 ^ s ∨
      q * 2 ^ s + 2 ^ s ≤ y.magnitude ∨ (y.magnitude < 2 ^ 52 * 2 ^ s ∧ 2 ^ 52 * 2 ^ s ≤ n * unitsPerOne) := by
    rcases y.multiple_or_below s with ⟨k, hk⟩ | ⟨hs, hlt⟩
    · have := mul_apart k q (2 ^ s)
      omega
    · exact .inr (.inr (.inr ⟨hlt, hstep hs⟩))
  have hfirst := mul_apart (2 ^ 52) q (2 ^ s)
  have hzero := mul_apart 0 q (2 ^ s)
  generalize 2 ^ s = step at *
  constructor
  all_goals
    intro y
    have hy := hgrid y
    have hsigned := y.units_cases
    rw [← Int.natCast_mul, hunits]
    generalize n * unitsPerOne = target at *
  · omega
  · intro htie hne
    exact heven (even (by omega))

theorem exists_ofParts? {m s : Nat} (hm : m < 2 ^ 53) (hs : s ≤ 2045) (hnormal : 2 ^ 52 ≤ m ∨ s = 0) :
    ∃ x, ofParts? false m s = some x ∧ x.negative = false ∧ x.mantissa = m ∧ x.scale = s :=
  ⟨⟨false, m, s, hm, hs, hnormal⟩, dif_pos ⟨hm, hs, hnormal⟩, rfl, rfl, rfl⟩

theorem exists_ofParts?_carried {q s : Nat} (hq : q ≤ 2 ^ 53) (hs : s ≤ 2044) (hnormal : s ≠ 0 → 2 ^ 52 ≤ q) :
    ∃ x, (if q = Nat.pow 2 53 then ofParts? false (Nat.pow 2 52) (s + 1) else ofParts? false q s) = some x ∧
      x.negative = false ∧ x.magnitude = q * 2 ^ s ∧ (q % 2 = 0 → x.mantissa % 2 = 0) := by
  simp only [Nat.pow_eq, magnitude]
  split
  next hcarry =>
    obtain ⟨x, hx, hsign, hmantissa, hscale⟩ := exists_ofParts? (m := 2 ^ 52) (s := s + 1) (by decide) (by omega)
      (.inl (by decide))
    refine ⟨x, hx, hsign, ?_, fun _ => by rw [hmantissa]; decide⟩
    rw [hmantissa, hscale, hcarry]
    ring
  next hfits =>
    obtain ⟨x, hx, hsign, hmantissa, hscale⟩ := exists_ofParts? (m := q) (s := s) (by omega) (by omega) (by omega)
    exact ⟨x, hx, hsign, by rw [hmantissa, hscale], by rw [hmantissa]; exact id⟩

/-- Reading a whole number of sixty-four bits rounds it to the nearest, which is its binary64 image. -/
theorem exists_ofNat? {n : Nat} (hn : n < 2 ^ 64) :
    ∃ x, ofNat? n = some x ∧ x.units = (roundTo53 n * unitsPerOne : Nat) ∧ x.IsNearest n := by
  -- The exponent gets a name, for nothing is to compute this power.
  obtain ⟨j, hroom, hfew, hone⟩ : ∃ j, 52 ≤ j ∧ j ≤ 1074 ∧ unitsPerOne = 2 ^ j :=
    ⟨1074, by decide, by decide, unitsPerOne_eq⟩
  have himage := roundDiv_shifted n hroom
  have hscale : (n * 2 ^ j).log2 - 52 ≤ 2044 := by
    by_cases hzero : n = 0
    · simp [hzero]
    have := (Nat.log2_lt hzero).mpr hn
    rw [log2_mul_two_pow hzero]
    omega
  have hround := isRounded_roundDiv (n * 2 ^ j) (Nat.two_pow_pos ((n * 2 ^ j).log2 - 52))
  obtain ⟨hcarry, hnormal⟩ := hround.bounds rfl
  obtain ⟨x, hx, hsign, hmagnitude, heven⟩ := exists_ofParts?_carried hcarry hscale fun hs => (hnormal hs).1
  refine ⟨x, ?_, ?_, ?_⟩
  · simpa only [ofNat?, ofRatio?, hone, Nat.div_one, Nat.one_mul, Nat.pow_eq] using hx
  · rw [units_of_not_negative hsign, hmagnitude, himage, hone]
  · generalize (n * 2 ^ j).log2 - 52 = s, roundDiv (n * 2 ^ j) _ = q at hround hmagnitude hnormal heven
    rw [← hone] at hround hnormal
    exact isNearest_of_isRounded hsign hmagnitude heven (fun hs => (hnormal hs).2) hround

theorem le_magnitude_of_lt_scale {x : Double} {s : Nat} (hs : s < x.scale) : 2 ^ 53 * 2 ^ s ≤ x.magnitude := by
  have hnormal : 2 ^ 52 ≤ x.mantissa := x.normal.resolve_right (by omega)
  calc 2 ^ 53 * 2 ^ s = 2 ^ 52 * 2 ^ (s + 1) := by ring
    _ ≤ x.mantissa * 2 ^ x.scale := Nat.mul_le_mul hnormal (Nat.pow_le_pow_right (by decide) hs)

/-- Two numbers with even mantissas have one between them, the successor of the lesser. -/
theorem exists_between {x z : Double} (hx : x.mantissa % 2 = 0) (hz : z.mantissa % 2 = 0)
    (hlt : x.magnitude < z.magnitude) :
    ∃ w : Double, w.negative = false ∧ x.magnitude < w.magnitude ∧ w.magnitude < z.magnitude := by
  have hroom : x.mantissa + 1 < 2 ^ 53 := by
    have : x.mantissa < 2 ^ 53 := x.mantissa_lt
    omega
  have hnormal : 2 ^ 52 ≤ x.mantissa + 1 ∨ x.scale = 0 := x.normal.imp_left Nat.le_succ_of_le
  have hnext : (x.mantissa + 1) * 2 ^ x.scale = x.magnitude + 2 ^ x.scale := Nat.succ_mul ..
  have hpos : 0 < 2 ^ x.scale := Nat.two_pow_pos _
  refine ⟨⟨false, x.mantissa + 1, x.scale, hroom, x.scale_le, hnormal⟩, rfl, ?_, ?_⟩
  · change x.magnitude < (x.mantissa + 1) * 2 ^ x.scale
    omega
  · change (x.mantissa + 1) * 2 ^ x.scale < z.magnitude
    -- At one scale even mantissas are two apart; at a greater one the other number is beyond all mantissas.
    rcases Nat.lt_trichotomy z.scale x.scale with hless | hsame | hmore
    · have := z.magnitude_lt
      have := le_magnitude_of_lt_scale hless
      omega
    · have hmantissa : x.mantissa < z.mantissa := by
        simp only [magnitude, hsame] at hlt
        exact Nat.lt_of_mul_lt_mul_right hlt
      rw [magnitude, hsame]
      exact Nat.mul_lt_mul_of_pos_right (by omega) hpos
    · exact (Nat.mul_lt_mul_of_pos_right hroom hpos).trans_le (le_magnitude_of_lt_scale hmore)

theorem IsNearest.units_eq_magnitude {x : Double} {n : Int} (hx : x.IsNearest n) (hn : 0 ≤ n) :
    x.units = x.magnitude := by
  have hscaled : 0 ≤ n * unitsPerOne := Int.mul_nonneg hn (by omega)
  have hzero : (zero false).units = 0 := rfl
  have := hx.closest (zero false)
  have := x.units_cases
  omega

theorem IsNearest.units_le {x z : Double} {n : Int} (hx : x.IsNearest n) (hz : z.IsNearest n) (hn : 0 ≤ n) :
    z.units ≤ x.units := by
  by_contra hlt
  have htie : (n * unitsPerOne - z.units).natAbs = (n * unitsPerOne - x.units).natAbs :=
    Nat.le_antisymm (hz.closest x) (hx.closest z)
  have hxunits := hx.units_eq_magnitude hn
  have hzunits := hz.units_eq_magnitude hn
  obtain ⟨w, hsign, hxw, hwz⟩ := exists_between (hx.even z htie (by omega)) (hz.even x htie.symm (by omega)) (by omega)
  have hwunits := units_of_not_negative hsign
  have := hx.closest w
  omega

/-- An integer rounds to one number only, apart from the sign of zero. -/
theorem IsNearest.units_eq {x z : Double} {n : Int} (hx : x.IsNearest n) (hz : z.IsNearest n) : x.units = z.units := by
  by_cases hn : 0 ≤ n
  · exact Int.le_antisymm (hz.units_le hx hn) (hx.units_le hz hn)
  · have hle := hx.neg.units_le hz.neg (by omega)
    have hge := hz.neg.units_le hx.neg (by omega)
    rw [units_neg, units_neg] at hle hge
    omega

/-- Rounding keeps the order of integers. -/
theorem IsNearest.mono {x y : Double} {a b : Int} (hx : x.IsNearest a) (hy : y.IsNearest b) (hab : a < b) :
    x.units ≤ y.units := by
  have hscaled : a * unitsPerOne < b * unitsPerOne :=
    Int.mul_lt_mul_of_pos_right hab (Int.natCast_pos.mpr unitsPerOne_pos)
  have := hx.closest y
  have := hy.closest x
  omega

/-- The binary64 image of an integer is the number that it rounds to. -/
theorem exists_isNearest {n : Int} (hn : n.natAbs < 2 ^ 64) :
    ∃ x : Double, x.IsNearest n ∧ x.units = (Number.integer n).units := by
  obtain ⟨x, -, hunits, hx⟩ := exists_ofNat? hn
  by_cases hneg : n < 0
  · refine ⟨x.neg, ?_, ?_⟩
    · have habs : -(n.natAbs : Int) = n := by omega
      exact habs ▸ hx.neg
    · rw [units_neg, hunits, Number.units, Int.sign_eq_neg_one_of_neg hneg, Int.neg_one_mul]
  · refine ⟨x, ?_, ?_⟩
    · have habs : (n.natAbs : Int) = n := by omega
      exact habs ▸ hx
    · rw [hunits, Number.units]
      by_cases hzero : n = 0
      · subst hzero
        simp [roundTo53_of_le]
      · rw [Int.sign_eq_one_of_pos (by omega), Int.one_mul]

end Double

end PagedFind
