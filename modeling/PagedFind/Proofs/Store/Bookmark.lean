import PagedFind.Store.Bookmark
import PagedFind.Text.Basic
import PagedFind.Proofs.Text.Base64
import PagedFind.Proofs.Text.Split
import Mathlib.Data.List.Basic

namespace PagedFind

namespace Text

theorem digitValue_of_isDigit {c : Char} (h : c.isDigit = true) : digitValue c = c.toNat - '0'.toNat := by
  simp only [Char.isDigit, Bool.and_eq_true, decide_eq_true_eq] at h
  exact if_pos h

theorem ofDigits_eq_ofDigitChars {digits : List Char} (h : ∀ c ∈ digits, c.isDigit = true) :
    ofDigits 10 digits = Nat.ofDigitChars 10 digits 0 := by
  rw [ofDigits, Nat.ofDigitChars_eq_foldl]
  refine List.foldl_ext _ _ _ fun n c hc => ?_
  rw [digitValue_of_isDigit (h c hc)]

theorem readCount?_plus_eq_some_iff {max n : Nat} {digits : List Char} :
    readCount? max ('+' :: digits) = some n ↔
      digits ≠ [] ∧ (∀ c ∈ digits, c.isDigit = true) ∧ Nat.ofDigitChars 10 digits 0 = n ∧ n ≤ max := by
  unfold readCount?
  simp only
  split
  next hrefused =>
    constructor
    · intro h
      cases h
    · rintro ⟨hne, hdigits, -, -⟩
      simp [hne, List.all_eq_true.mpr hdigits] at hrefused
  next haccepted =>
    obtain ⟨hne, hdigits⟩ : digits ≠ [] ∧ ∀ c ∈ digits, c.isDigit = true := by
      simpa only [Bool.or_eq_true, List.isEmpty_iff, Bool.not_eq_true', not_or, Bool.not_eq_false,
        List.all_eq_true] using haccepted
    rw [ofDigits_eq_ofDigitChars hdigits]
    constructor
    · intro h
      split at h
      next hmax =>
        cases h
        exact ⟨hne, hdigits, rfl, hmax⟩
      next => cases h
    · rintro ⟨-, -, rfl, hmax⟩
      rw [if_pos hmax]

theorem readCount?_eq_some_iff {max n : Nat} {text : List Char} :
    readCount? max text = some n ↔ ∃ sign digits, text = sign ++ digits ∧ (sign = [] ∨ sign = ['+']) ∧ digits ≠ [] ∧
      (∀ c ∈ digits, c.isDigit = true) ∧ Nat.ofDigitChars 10 digits 0 = n ∧ n ≤ max := by
  have hunsigned {text : List Char} (h : ∀ rest, text ≠ '+' :: rest) :
      readCount? max text = readCount? max ('+' :: text) := by
    unfold readCount?
    split
    next _ rest => exact absurd rfl (h rest)
    next => rfl
  constructor
  · intro h
    by_cases hplus : ∃ rest, text = '+' :: rest
    · obtain ⟨rest, rfl⟩ := hplus
      exact ⟨['+'], rest, rfl, .inr rfl, readCount?_plus_eq_some_iff.mp h⟩
    · rw [hunsigned fun rest heq => hplus ⟨rest, heq⟩] at h
      exact ⟨[], text, rfl, .inl rfl, readCount?_plus_eq_some_iff.mp h⟩
  · rintro ⟨sign, digits, rfl, rfl | rfl, hread⟩
    · -- A text of digits alone is read as it would be after a plus sign, for no digit is one.
      have hdigit : ∀ rest, digits ≠ '+' :: rest := by
        rintro rest rfl
        exact absurd (hread.2.1 '+' (by simp)) (by decide)
      rw [List.nil_append, hunsigned hdigit]
      exact readCount?_plus_eq_some_iff.mpr hread
    · exact readCount?_plus_eq_some_iff.mpr hread

theorem flatMap_utf8_of_ascii {text : List Char} (h : ∀ c ∈ text, c.toNat < 128) :
    text.flatMap utf8 = text.map Char.toNat := by
  induction text with
  | nil => rfl
  | cons c text ih =>
    have hc : utf8 c = [c.toNat] := if_pos (h c (by simp))
    rw [List.flatMap_cons, hc, ih fun d hd => h d (by simp [hd])]
    rfl

theorem map_toNat_map_ofNat {bytes : List Nat} (h : ∀ b ∈ bytes, b < 256) :
    (bytes.map Char.ofNat).map Char.toNat = bytes := by
  rw [List.map_map]
  refine (List.map_congr_left fun b hb => ?_).trans (List.map_id bytes)
  have hvalid : b.isValidChar := .inl (Nat.lt_trans (h b hb) (by decide))
  rw [Function.comp_apply, Char.ofNat, dif_pos hvalid]
  rfl

theorem map_ofNat_map_toNat (text : List Char) : (text.map Char.toNat).map Char.ofNat = text := by
  have back : Char.ofNat ∘ Char.toNat = id := funext Char.ofNat_toNat
  rw [List.map_map, back, List.map_id]

end Text

namespace Bookmark

/-- A text that names a number of rows. -/
def Names (text : List Char) (n : Nat) : Prop :=
  ∃ sign digits : List Char, text = ['g', '1', ':'] ++ sign ++ digits ∧ (sign = [] ∨ sign = ['+']) ∧ digits ≠ [] ∧
    (∀ c ∈ digits, c.isDigit = true) ∧ Nat.ofDigitChars 10 digits 0 = n ∧ n ≤ Text.maxWord

theorem names_toDigits {n : Nat} (h : n ≤ Text.maxWord) : Names (mark ++ Nat.toDigits 10 n) n := by
  have digits : ∀ c ∈ Nat.toDigits 10 n, c.isDigit = true := fun c hc =>
    Nat.isDigit_of_mem_toDigits (by decide) (by decide) hc
  have value : Nat.ofDigitChars 10 (Nat.toDigits 10 n) 0 = n := Nat.ofDigitChars_ten_toDigits
  exact ⟨[], _, rfl, .inl rfl, Nat.toDigits_ne_nil, digits, value, h⟩

theorem Names.ascii {text : List Char} {n : Nat} (h : Names text n) : ∀ c ∈ text, c.toNat < 128 := by
  obtain ⟨sign, digits, rfl, hsign, -, hdigits, -, -⟩ := h
  have hdigit : ∀ c ∈ digits, c.toNat < 128 := by
    intro c hc
    have hc := hdigits c hc
    simp only [Char.isDigit, Bool.and_eq_true, decide_eq_true_eq] at hc
    have : c.toNat ≤ 57 := hc.2
    omega
  have hstart : (['g', '1', ':'] ++ sign).all (·.toNat < 128) = true := by
    rcases hsign with rfl | rfl
    · rfl
    · rfl
  intro c hc
  rcases List.mem_append.mp hc with hc | hc
  · exact of_decide_eq_true (List.all_eq_true.mp hstart c hc)
  · exact hdigit c hc

theorem Names.map_toNat_lt {text : List Char} {n : Nat} (h : Names text n) : ∀ b ∈ text.map Char.toNat, b < 256 := by
  intro b hb
  obtain ⟨c, hc, rfl⟩ := List.mem_map.mp hb
  have := h.ascii c hc
  omega

/-- A bookmark leads to a number of rows just where it is the spelling of a text that names it. -/
theorem decode?_eq_some_iff {bookmark : String} {n : Nat} :
    decode? bookmark = some n ↔ ∃ text, Names text n ∧ Text.Base64.Spells bookmark.toList (text.flatMap Text.utf8) := by
  constructor
  · intro h
    obtain ⟨bytes, hbytes, h⟩ := Option.bind_eq_some_iff.mp h
    obtain ⟨rest, hrest, h⟩ := Option.bind_eq_some_iff.mp h
    obtain ⟨hsmall, hspells⟩ := Text.Base64.decode_eq_some_iff.mp hbytes
    obtain ⟨sign, digits, rfl, hread⟩ := Text.readCount?_eq_some_iff.mp h
    have hnames : Names (bytes.map Char.ofNat) n :=
      ⟨sign, digits, by rw [Text.dropStart?_eq_some_iff.mp hrest, List.append_assoc]; rfl, hread⟩
    refine ⟨_, hnames, ?_⟩
    rw [Text.flatMap_utf8_of_ascii hnames.ascii, Text.map_toNat_map_ofNat hsmall]
    exact hspells
  · rintro ⟨text, hnames, hspells⟩
    rw [Text.flatMap_utf8_of_ascii hnames.ascii] at hspells
    have hsmall := hnames.map_toNat_lt
    obtain ⟨sign, digits, htext, hread⟩ := hnames
    have hstart : Text.dropStart? mark text = some (sign ++ digits) :=
      Text.dropStart?_eq_some_iff.mpr (by rw [htext, List.append_assoc]; rfl)
    simp only [decode?, Text.Base64.decode_eq_some_iff.mpr ⟨hsmall, hspells⟩, Option.bind_eq_bind, Option.bind_some,
      Text.map_ofNat_map_toNat, hstart]
    exact Text.readCount?_eq_some_iff.mpr ⟨sign, digits, rfl, hread⟩

theorem decode?_encode {offset : Nat} (h : offset ≤ Text.maxWord) : decode? (encode offset) = some offset := by
  have hnames := names_toDigits h
  have hspells := (Text.Base64.decode_eq_some_iff.mp (Text.Base64.decode_encode hnames.map_toNat_lt)).2
  refine decode?_eq_some_iff.mpr ⟨_, hnames, ?_⟩
  rw [encode, String.toList_ofList, Text.flatMap_utf8_of_ascii hnames.ascii]
  exact hspells

theorem encode_ne_empty (offset : Nat) : encode offset ≠ "" := by
  intro h
  have empty := congrArg String.toList h
  simp [encode, mark, Text.Base64.encode] at empty

end Bookmark

end PagedFind
