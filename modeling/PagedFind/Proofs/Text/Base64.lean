import PagedFind.Store.Bookmark
import Mathlib.Algebra.Group.Nat.Defs
import Mathlib.Data.List.Basic

namespace PagedFind.Text.Base64

theorem value?_digit {n : Nat} (h : n < 64) : value? (digit n) = some n := by
  have all : ∀ n < 64, value? (digit n) = some n := by decide
  exact all n h

theorem decode_encode {bytes : List Nat} (h : ∀ b ∈ bytes, b < 256) :
    decode (encode bytes) = some bytes := by
  fun_induction encode bytes with
  | case1 => rfl
  | case2 a =>
    have ha : a < 256 := h a (by simp)
    have hx := value?_digit (show a / 4 < 64 by omega)
    have hy := value?_digit (show a % 4 * 16 < 64 by omega)
    have back : a / 4 * 4 + a % 4 * 16 / 16 = a := by omega
    simp only [decode, hx, hy, Option.bind_eq_bind, Option.bind_some, back]
    rw [if_pos (by omega)]
  | case3 a b =>
    have ha : a < 256 := h a (by simp)
    have hb : b < 256 := h b (by simp)
    have hx := value?_digit (show a / 4 < 64 by omega)
    have hy := value?_digit (show a % 4 * 16 + b / 16 < 64 by omega)
    have hz := value?_digit (show b % 16 * 4 < 64 by omega)
    have backA : a / 4 * 4 + (a % 4 * 16 + b / 16) / 16 = a := by omega
    have backB : (a % 4 * 16 + b / 16) % 16 * 16 + b % 16 * 4 / 4 = b := by omega
    simp only [decode, hx, hy, hz, Option.bind_eq_bind, Option.bind_some, backA, backB]
    rw [if_pos (by omega)]
  | case4 a b c rest ih =>
    have ha : a < 256 := h a (by simp)
    have hb : b < 256 := h b (by simp)
    have hc : c < 256 := h c (by simp)
    have hx := value?_digit (show a / 4 < 64 by omega)
    have hy := value?_digit (show a % 4 * 16 + b / 16 < 64 by omega)
    have hz := value?_digit (show b % 16 * 4 + c / 64 < 64 by omega)
    have hw := value?_digit (show c % 64 < 64 by omega)
    have backA : a / 4 * 4 + (a % 4 * 16 + b / 16) / 16 = a := by omega
    have backB : (a % 4 * 16 + b / 16) % 16 * 16 + (b % 16 * 4 + c / 64) / 4 = b := by omega
    have backC : (b % 16 * 4 + c / 64) % 4 * 64 + c % 64 = c := by omega
    have hrest := ih fun x hx => h x (by simp [hx])
    simp only [decode, hx, hy, hz, hw, hrest, Option.bind_eq_bind, Option.bind_some, backA, backB,
      backC]

/-- The last bits of a number, the most significant first. -/
def bits : Nat → Nat → List Bool
  | 0, _ => []
  | width + 1, n => n.testBit width :: bits width n

def alphabet : List Char := "ABCDEFGHIJKLMNOPQRSTUVWXYZabcdefghijklmnopqrstuvwxyz0123456789-_".toList

/-- The digits of a text hold the bits of the bytes, six in each, and fewer than six zeros that fill the last. -/
def Spells (text : List Char) (bytes : List Nat) : Prop :=
  ∃ values : List Nat, ∃ fill < 6, text.map some = values.map (alphabet[·]?) ∧
    values.flatMap (bits 6) = bytes.flatMap (bits 8) ++ List.replicate fill false

@[simp] theorem length_bits (width n : Nat) : (bits width n).length = width := by
  induction width with
  | zero => rfl
  | succ width ih => simp [bits, ih]

theorem bits_add (high low n : Nat) : bits (high + low) n = bits high (n / 2 ^ low) ++ bits low n := by
  induction high with
  | zero => simp [bits]
  | succ high ih =>
    rw [Nat.add_right_comm, bits, bits, Nat.testBit_div_two_pow, ih, List.cons_append]

theorem bits_congr {width m n : Nat} (h : m % 2 ^ width = n % 2 ^ width) : bits width m = bits width n := by
  have htest : ∀ i < width, m.testBit i = n.testBit i := by
    intro i hi
    have := congrArg (Nat.testBit · i) h
    simpa [Nat.testBit_mod_two_pow, hi] using this
  clear h
  induction width with
  | zero => rfl
  | succ width ih =>
    rw [bits, bits, htest width (by omega), ih fun i hi => htest i (by omega)]

theorem bits_injective {width m n : Nat} (hm : m < 2 ^ width) (hn : n < 2 ^ width) (h : bits width m = bits width n) :
    m = n := by
  have htest : ∀ i < width, m.testBit i = n.testBit i := by
    clear hm hn
    induction width with
    | zero => simp
    | succ width ih =>
      obtain ⟨hfirst, hrest⟩ := List.cons.inj h
      intro i hi
      rcases Nat.lt_succ_iff_lt_or_eq.mp hi with hlt | rfl
      · exact ih hrest i hlt
      · exact hfirst
  refine Nat.eq_of_testBit_eq fun i => ?_
  by_cases hi : i < width
  · exact htest i hi
  · have hpow : 2 ^ width ≤ 2 ^ i := Nat.pow_le_pow_right (by decide) (by omega)
    rw [Nat.testBit_lt_two_pow (Nat.lt_of_lt_of_le hm hpow), Nat.testBit_lt_two_pow (Nat.lt_of_lt_of_le hn hpow)]

theorem length_alphabet : alphabet.length = 64 := by decide +kernel

theorem lt_of_getElem?_alphabet {c : Char} {v : Nat} (h : alphabet[v]? = some c) : v < 64 := by
  rw [← length_alphabet]
  exact (List.getElem?_eq_some_iff.mp h).1

theorem getElem?_alphabet {v : Nat} (hv : v < 64) : alphabet[v]? = some (digit v) := by
  have all : ∀ v < 64, alphabet[v]? = some (digit v) := by decide +kernel
  exact all v hv

theorem digit_of_value? {c : Char} {v : Nat} (h : value? c = some v) : v < 64 ∧ digit v = c := by
  have back {n : Nat} (hn : n = c.toNat) : Char.ofNat n = c := hn ▸ Char.ofNat_toNat c
  unfold value? at h
  split at h
  next hupper =>
    have hlow : 65 ≤ c.toNat := hupper.1
    have hhigh : c.toNat ≤ 90 := hupper.2
    have hv : c.toNat - 65 = v := Option.some.inj h
    refine ⟨by omega, ?_⟩
    rw [digit, if_pos (by omega)]
    exact back (show 65 + v = c.toNat by omega)
  split at h
  next hlower =>
    have hlow : 97 ≤ c.toNat := hlower.1
    have hhigh : c.toNat ≤ 122 := hlower.2
    have hv : c.toNat - 97 + 26 = v := Option.some.inj h
    refine ⟨by omega, ?_⟩
    rw [digit, if_neg (by omega), if_pos (by omega)]
    exact back (show 97 + (v - 26) = c.toNat by omega)
  split at h
  next hdigit =>
    have hlow : 48 ≤ c.toNat := hdigit.1
    have hhigh : c.toNat ≤ 57 := hdigit.2
    have hv : c.toNat - 48 + 52 = v := Option.some.inj h
    refine ⟨by omega, ?_⟩
    rw [digit, if_neg (by omega), if_neg (by omega), if_pos (by omega)]
    exact back (show 48 + (v - 52) = c.toNat by omega)
  split at h
  next hminus => cases h; exact ⟨by decide, hminus ▸ rfl⟩
  split at h
  next hunderscore => cases h; exact ⟨by decide, hunderscore ▸ rfl⟩
  next => cases h

theorem value?_eq_some_iff {c : Char} {v : Nat} : value? c = some v ↔ alphabet[v]? = some c := by
  constructor
  · intro h
    obtain ⟨hv, hdigit⟩ := digit_of_value? h
    rw [getElem?_alphabet hv, hdigit]
  · intro h
    have hv := lt_of_getElem?_alphabet h
    rw [getElem?_alphabet hv] at h
    rw [← Option.some.inj h, value?_digit hv]

theorem bits_split (high low n : Nat) : bits (high + low) n = bits high (n / 2 ^ low) ++ bits low (n % 2 ^ low) := by
  rw [bits_add, bits_congr (Nat.mod_mod n (2 ^ low))]

theorem bits_join (high low a : Nat) {b : Nat} (hb : b < 2 ^ low) :
    bits (high + low) (a * 2 ^ low + b) = bits high a ++ bits low b := by
  have hquotient : (a * 2 ^ low + b) / 2 ^ low = a := by
    rw [Nat.mul_comm, Nat.mul_add_div (Nat.two_pow_pos low), Nat.div_eq_of_lt hb, Nat.add_zero]
  have hremainder : (a * 2 ^ low + b) % 2 ^ low = b := by
    rw [Nat.mul_add_mod_self_right, Nat.mod_eq_of_lt hb]
  rw [bits_split, hquotient, hremainder]

theorem bits_pair (x : Nat) {y : Nat} (hy : y < 64) :
    bits 6 x ++ bits 6 y = bits 8 (x * 4 + y / 16) ++ bits 4 (y % 16) := by
  have hbyte : bits 8 (x * 4 + y / 16) = bits 6 x ++ bits 2 (y / 16) := bits_join 6 2 x (by omega)
  have hdigit : bits 6 y = bits 2 (y / 16) ++ bits 4 (y % 16) := bits_split 2 4 y
  rw [hbyte, hdigit, List.append_assoc]

theorem bits_triple (x : Nat) {y z : Nat} (hy : y < 64) (hz : z < 64) :
    bits 6 x ++ (bits 6 y ++ bits 6 z) =
      bits 8 (x * 4 + y / 16) ++ (bits 8 (y % 16 * 16 + z / 4) ++ bits 2 (z % 4)) := by
  have hbyte : bits 8 (y % 16 * 16 + z / 4) = bits 4 (y % 16) ++ bits 4 (z / 4) := bits_join 4 4 _ (by omega)
  have hdigit : bits 6 z = bits 4 (z / 4) ++ bits 2 (z % 4) := bits_split 4 2 z
  rw [← List.append_assoc, bits_pair x hy, hbyte, hdigit]
  simp only [List.append_assoc]

theorem bits_group (x : Nat) {y z w : Nat} (hy : y < 64) (hz : z < 64) (hw : w < 64) :
    bits 6 x ++ (bits 6 y ++ (bits 6 z ++ bits 6 w)) =
      bits 8 (x * 4 + y / 16) ++ (bits 8 (y % 16 * 16 + z / 4) ++ bits 8 (z % 4 * 64 + w)) := by
  have hbyte : bits 8 (z % 4 * 64 + w) = bits 2 (z % 4) ++ bits 6 w := bits_join 2 6 _ (by omega)
  have htriple := congrArg (· ++ bits 6 w) (bits_triple x hy hz)
  rw [hbyte]
  simpa only [List.append_assoc] using htriple

/-- What is read is spelled by the text. -/
theorem spells_of_decode {text : List Char} {bytes : List Nat} (h : decode text = some bytes) :
    (∀ b ∈ bytes, b < 256) ∧ Spells text bytes := by
  fun_induction decode text generalizing bytes with
  | case1 =>
    cases h
    exact ⟨by simp, [], 0, by decide, rfl, rfl⟩
  | case2 => cases h
  | case3 p q =>
    obtain ⟨x, hp, h⟩ := Option.bind_eq_some_iff.mp h
    obtain ⟨y, hq, h⟩ := Option.bind_eq_some_iff.mp h
    split at h
    next hfill =>
      cases h
      have hx := (digit_of_value? hp).1
      have hy := (digit_of_value? hq).1
      have hzero : bits 4 (y % 16) = List.replicate 4 false := by rw [hfill]; rfl
      refine ⟨by simp; omega, [x, y], 4, by decide, ?_, ?_⟩
      · simp [value?_eq_some_iff.mp hp, value?_eq_some_iff.mp hq]
      · simp only [List.flatMap_cons, List.flatMap_nil, List.append_nil, ← hzero]
        exact bits_pair x hy
    next => cases h
  | case4 p q r =>
    obtain ⟨x, hp, h⟩ := Option.bind_eq_some_iff.mp h
    obtain ⟨y, hq, h⟩ := Option.bind_eq_some_iff.mp h
    obtain ⟨z, hr, h⟩ := Option.bind_eq_some_iff.mp h
    split at h
    next hfill =>
      cases h
      have hx := (digit_of_value? hp).1
      have hy := (digit_of_value? hq).1
      have hz := (digit_of_value? hr).1
      have hzero : bits 2 (z % 4) = List.replicate 2 false := by rw [hfill]; rfl
      refine ⟨by simp; omega, [x, y, z], 2, by decide, ?_, ?_⟩
      · simp [value?_eq_some_iff.mp hp, value?_eq_some_iff.mp hq, value?_eq_some_iff.mp hr]
      · simp only [List.flatMap_cons, List.flatMap_nil, List.append_nil, List.append_assoc, ← hzero]
        exact bits_triple x hy hz
    next => cases h
  | case5 p q r s rest ih =>
    obtain ⟨x, hp, h⟩ := Option.bind_eq_some_iff.mp h
    obtain ⟨y, hq, h⟩ := Option.bind_eq_some_iff.mp h
    obtain ⟨z, hr, h⟩ := Option.bind_eq_some_iff.mp h
    obtain ⟨w, hs, h⟩ := Option.bind_eq_some_iff.mp h
    obtain ⟨bytes, hrest, h⟩ := Option.bind_eq_some_iff.mp h
    cases h
    have hx := (digit_of_value? hp).1
    have hy := (digit_of_value? hq).1
    have hz := (digit_of_value? hr).1
    have hw := (digit_of_value? hs).1
    obtain ⟨hbytes, values, fill, hfill, htext, hbits⟩ := ih hrest
    refine ⟨?_, x :: y :: z :: w :: values, fill, hfill, ?_, ?_⟩
    · simp only [List.forall_mem_cons]
      exact ⟨by omega, by omega, by omega, hbytes⟩
    · simp [value?_eq_some_iff.mp hp, value?_eq_some_iff.mp hq, value?_eq_some_iff.mp hr, value?_eq_some_iff.mp hs,
        htext]
    · have hgroup := congrArg (· ++ values.flatMap (bits 6)) (bits_group x hy hz hw)
      simpa only [List.flatMap_cons, List.append_assoc, hbits] using hgroup

theorem lt_of_map_alphabet {text : List Char} {values : List Nat} (h : text.map some = values.map (alphabet[·]?)) :
    ∀ v ∈ values, v < 64 := by
  intro v hv
  have hmem : alphabet[v]? ∈ text.map some := h ▸ List.mem_map_of_mem hv
  obtain ⟨c, -, hc⟩ := List.mem_map.mp hmem
  exact lt_of_getElem?_alphabet hc.symm

theorem eq_of_flatMap_bits {vs ws : List Nat} (hvs : ∀ v ∈ vs, v < 64) (hws : ∀ w ∈ ws, w < 64)
    (h : vs.flatMap (bits 6) = ws.flatMap (bits 6)) : vs = ws := by
  induction vs generalizing ws with
  | nil =>
    cases ws with
    | nil => rfl
    | cons w ws => simp [bits] at h
  | cons v vs ih =>
    cases ws with
    | nil => simp [bits] at h
    | cons w ws =>
      obtain ⟨hfirst, hrest⟩ := List.append_inj h (by rw [length_bits, length_bits])
      have hv := bits_injective (hvs v (by simp)) (hws w (by simp)) hfirst
      rw [hv, ih (fun v hv => hvs v (by simp [hv])) (fun w hw => hws w (by simp [hw])) hrest]

theorem length_flatMap_bits (width : Nat) (values : List Nat) :
    (values.flatMap (bits width)).length = values.length * width := by
  simp [List.length_flatMap, length_bits]

/-- Bytes are spelled by one text only. -/
theorem Spells.unique {text text' : List Char} {bytes : List Nat} (h : Spells text bytes) (h' : Spells text' bytes) :
    text = text' := by
  obtain ⟨vs, fill, hfill, htext, hbits⟩ := h
  obtain ⟨ws, fill', hfill', htext', hbits'⟩ := h'
  have hlength := congrArg List.length hbits
  have hlength' := congrArg List.length hbits'
  rw [List.length_append, length_flatMap_bits, length_flatMap_bits, List.length_replicate] at hlength hlength'
  -- The bits of a text are a multiple of six, which leaves one number of zeros below six.
  have hsame : fill = fill' := by omega
  have hvalues : vs = ws :=
    eq_of_flatMap_bits (lt_of_map_alphabet htext) (lt_of_map_alphabet htext') (by rw [hbits, hbits', hsame])
  rw [hvalues, ← htext'] at htext
  exact (List.map_inj_right fun _ _ => Option.some.inj).mp htext

/-- Reading accepts a text just where it spells bytes, and then gives them. -/
theorem decode_eq_some_iff {text : List Char} {bytes : List Nat} :
    decode text = some bytes ↔ (∀ b ∈ bytes, b < 256) ∧ Spells text bytes := by
  constructor
  · exact spells_of_decode
  · rintro ⟨hbytes, hspells⟩
    have hencode := decode_encode hbytes
    rw [hspells.unique (spells_of_decode hencode).2, hencode]

end PagedFind.Text.Base64
