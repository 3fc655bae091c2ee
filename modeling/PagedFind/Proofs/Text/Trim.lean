import PagedFind.Text.Basic
import Mathlib.Data.List.Forall2
import Mathlib.Data.List.TakeWhile

namespace PagedFind.Text

/-- The text has the core in it, with nothing but blank space before and after. -/
def Padded (core text : List Char) : Prop :=
  ∃ before after, text = before ++ core ++ after ∧ (∀ c ∈ before, isBlank c = true) ∧ ∀ c ∈ after, isBlank c = true

/-- The text is the word, with small or with capital letters in place of its small ones. -/
def InEitherCase (word text : List Char) : Prop := List.Forall₂ (fun l c => c = l ∨ c = l.toUpper) word text

variable {core text word : List Char}

theorem padded_trimClass (text : List Char) : Padded (trimClass isBlank text) text := by
  obtain ⟨rest, hrest⟩ : ∃ rest, rest = (text.dropWhile isBlank).reverse := ⟨_, rfl⟩
  have hback : text.dropWhile isBlank = (rest.dropWhile isBlank).reverse ++ (rest.takeWhile isBlank).reverse := by
    rw [← List.reverse_append, List.takeWhile_append_dropWhile, hrest, List.reverse_reverse]
  refine ⟨text.takeWhile isBlank, (rest.takeWhile isBlank).reverse, ?_, ?_, ?_⟩
  · rw [trimClass, ← hrest, List.append_assoc, ← hback, List.takeWhile_append_dropWhile]
  · exact fun c hc => List.mem_takeWhile_imp hc
  · exact fun c hc => List.mem_takeWhile_imp (List.mem_reverse.mp hc)

theorem Padded.trimClass_eq (h : Padded core text) (hcore : ∀ c ∈ core, isBlank c = false) :
    trimClass isBlank text = core := by
  obtain ⟨before, after, rfl, hbefore, hafter⟩ := h
  have hback : ∀ c ∈ after.reverse, isBlank c = true := fun c hc => hafter c (List.mem_reverse.mp hc)
  have hkept : core.reverse.dropWhile isBlank = core.reverse := by
    refine List.dropWhile_eq_self_iff.mpr fun hlength hblank => ?_
    have hplain := hcore _ (List.mem_reverse.mp (List.getElem_mem hlength))
    exact Bool.false_ne_true (hplain.symm.trans hblank)
  rw [trimClass, List.append_assoc, List.dropWhile_append_of_pos hbefore]
  cases core with
  | nil =>
    rw [List.nil_append, List.dropWhile_eq_nil_iff.mpr hafter]
    rfl
  | cons c core =>
    have hc : ¬isBlank c = true := by simp [hcore c List.mem_cons_self]
    rw [List.cons_append, List.dropWhile_cons_of_neg hc, ← List.cons_append, List.reverse_append,
      List.dropWhile_append_of_pos hback, hkept, List.reverse_reverse]

theorem isBlank_of_isDigit {c : Char} (h : c.isDigit = true) : isBlank c = false := by
  simp only [Char.isDigit, Bool.and_eq_true, decide_eq_true_eq, ge_iff_le] at h
  have hlow : 48 ≤ c.toNat := h.1
  have hhigh : c.toNat ≤ 57 := h.2
  simp only [isBlank, Bool.or_eq_false_iff, Bool.and_eq_false_iff, decide_eq_false_iff_not, beq_eq_false_iff_ne]
  omega

theorem toNat_toLower (c : Char) :
    c.toLower.toNat = if 65 ≤ c.toNat ∧ c.toNat ≤ 90 then c.toNat + 32 else c.toNat := by
  unfold Char.toLower
  split
  next h =>
    have hrange : 65 ≤ c.toNat ∧ c.toNat ≤ 90 := h
    rw [if_pos hrange]
    show (c.val + 32).toNat = c.toNat + 32
    rw [UInt32.toNat_add]
    exact Nat.mod_eq_of_lt (show c.toNat + 32 < 2 ^ 32 by omega)
  next h =>
    have hrange : ¬(65 ≤ c.toNat ∧ c.toNat ≤ 90) := h
    rw [if_neg hrange]

theorem toNat_toUpper (c : Char) :
    c.toUpper.toNat = if 97 ≤ c.toNat ∧ c.toNat ≤ 122 then c.toNat - 32 else c.toNat := by
  unfold Char.toUpper
  split
  next h =>
    have hrange : 97 ≤ c.toNat ∧ c.toNat ≤ 122 := h
    rw [if_pos hrange]
    show (c.val + ('A'.val - 'a'.val)).toNat = c.toNat - 32
    rw [UInt32.toNat_add]
    -- The difference of the letters is taken modulo 2 ^ 32, so that adding it takes 32 away.
    show (c.toNat + 4294967264) % 2 ^ 32 = c.toNat - 32
    omega
  next h =>
    have hrange : ¬(97 ≤ c.toNat ∧ c.toNat ≤ 122) := h
    rw [if_neg hrange]

theorem toLower_eq_iff {l c : Char} (hl : l.toLower = l) : c.toLower = l ↔ c = l ∨ c = l.toUpper := by
  have hsmall := toNat_toLower l
  rw [hl] at hsmall
  simp only [← Char.toNat_inj, toNat_toLower, toNat_toUpper]
  split at hsmall <;> split <;> split <;> omega

theorem map_toLower_eq_iff (hword : ∀ l ∈ word, l.toLower = l) :
    text.map Char.toLower = word ↔ InEitherCase word text := by
  induction word generalizing text with
  | nil => cases text <;> simp [InEitherCase]
  | cons l word ih =>
    obtain ⟨hl, hrest⟩ := List.forall_mem_cons.mp hword
    cases text with
    | nil => simp [InEitherCase]
    | cons c text =>
      rw [List.map_cons, List.cons.injEq, toLower_eq_iff hl, ih hrest, InEitherCase, InEitherCase, List.forall₂_cons]

end PagedFind.Text
