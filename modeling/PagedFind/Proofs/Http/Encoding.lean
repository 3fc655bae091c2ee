import Mathlib.Data.List.Basic
import PagedFind.Http.Url

namespace PagedFind.Text

theorem utf8_eq_utf8EncodeChar (c : Char) : utf8 c = (String.utf8EncodeChar c).map UInt8.toNat := by
  have hval : c.val.toNat = c.toNat := rfl
  have hlt : c.toNat < 0x110000 := by
    have hvalid := c.valid
    simp only [UInt32.isValidChar, Nat.isValidChar] at hvalid
    omega
  simp only [utf8, String.utf8EncodeChar, hval, Nat.pow_eq]
  -- the two definitions have the same bounds
  split_ifs <;> simp only [List.map_cons, List.map_nil, UInt8.toNat_ofNat', List.cons.injEq, and_true] <;> omega

theorem flatMap_utf8_injective {text text' : List Char} (h : text.flatMap utf8 = text'.flatMap utf8) :
    text = text' := by
  have hbytes (text : List Char) : text.flatMap utf8 = (text.flatMap String.utf8EncodeChar).map UInt8.toNat := by
    rw [List.map_flatMap]
    exact List.flatMap_congr fun c _ => utf8_eq_utf8EncodeChar c
  rw [hbytes, hbytes] at h
  have hencoded : text.utf8Encode = text'.utf8Encode :=
    congrArg List.toByteArray (List.map_injective_iff.mpr (fun _ _ => UInt8.toNat.inj) h)
  have hdecoded := congrArg ByteArray.utf8Decode? hencoded
  rw [List.utf8Decode?_utf8Encode, List.utf8Decode?_utf8Encode] at hdecoded
  exact congrArg Array.toList (Option.some.inj hdecoded)

theorem lt_of_mem_utf8 {c : Char} {byte : Nat} (h : byte ∈ utf8 c) : byte < 256 := by
  rw [utf8_eq_utf8EncodeChar] at h
  obtain ⟨b, -, rfl⟩ := List.mem_map.mp h
  exact b.toNat_lt

end PagedFind.Text

namespace PagedFind.Http.Url

/-- The bytes of a text in which some may be percent-encoded. -/
def bytesOf : List Char → List Nat
  | '%' :: a :: b :: rest => Text.ofDigits 16 [a, b] :: bytesOf rest
  | c :: rest => Text.utf8 c ++ bytesOf rest
  | [] => []

theorem bytesOf_cons {c : Char} (hc : c ≠ '%') (rest : List Char) :
    bytesOf (c :: rest) = Text.utf8 c ++ bytesOf rest := by
  rw [bytesOf]
  rintro a b rest' rfl
  exact absurd rfl hc

theorem percent_digits {byte : Nat} (h : byte < 256) :
    ∃ a b, percent byte = ['%', a, b] ∧ Text.ofDigits 16 [a, b] = byte ∧ '/' ∉ percent byte := by
  have hall : ∀ byte < 256, (percent byte).length = 3 ∧ (percent byte).take 1 = ['%'] ∧
      Text.ofDigits 16 ((percent byte).drop 1) = byte ∧ '/' ∉ percent byte := by
    decide +kernel
  obtain ⟨hlength, hsign, hvalue, hslash⟩ := hall byte h
  obtain ⟨p, a, b, hdigits⟩ := List.length_eq_three.mp hlength
  rw [hdigits] at hsign hvalue
  obtain rfl := List.singleton_inj.mp hsign
  exact ⟨a, b, hdigits, hvalue, hslash⟩

theorem bytesOf_percent {bytes : List Nat} (h : ∀ byte ∈ bytes, byte < 256) (rest : List Char) :
    bytesOf (bytes.flatMap percent ++ rest) = bytes ++ bytesOf rest := by
  induction bytes with
  | nil => rfl
  | cons byte bytes ih =>
    obtain ⟨a, b, hdigits, hvalue, -⟩ := percent_digits (h byte List.mem_cons_self)
    have hrest := ih fun byte hmem => h byte (List.mem_cons_of_mem _ hmem)
    calc bytesOf ((byte :: bytes).flatMap percent ++ rest)
        = bytesOf ('%' :: a :: b :: (bytes.flatMap percent ++ rest)) := by rw [List.flatMap_cons, hdigits]; rfl
      _ = byte :: bytesOf (bytes.flatMap percent ++ rest) := by rw [bytesOf, hvalue]
      _ = byte :: bytes ++ bytesOf rest := by rw [hrest]; rfl

variable {isEncoded : Char → Bool} {text : List Char}

theorem encode_cons (c : Char) (rest : List Char) : encode isEncoded (c :: rest) =
    (if isEncoded c then (Text.utf8 c).flatMap percent else [c]) ++ encode isEncoded rest := rfl

/-- Encoding keeps the bytes of a text without percent signs. -/
theorem bytesOf_encode (h : '%' ∉ text) : bytesOf (encode isEncoded text) = text.flatMap Text.utf8 := by
  induction text with
  | nil => rfl
  | cons c rest ih =>
    have hrest := ih fun hmem => h (List.mem_cons_of_mem c hmem)
    have hc : c ≠ '%' := fun heq => h (heq ▸ List.mem_cons_self)
    rw [encode_cons, List.flatMap_cons]
    split
    · rw [bytesOf_percent (fun byte hmem => Text.lt_of_mem_utf8 hmem), hrest]
    · rw [List.singleton_append, bytesOf_cons hc, hrest]

theorem slash_not_mem_encode (h : '/' ∉ text) : '/' ∉ encode isEncoded text := by
  intro hmem
  obtain ⟨c, hc, hmem⟩ := List.mem_flatMap.mp hmem
  split at hmem
  · obtain ⟨byte, hbyte, hmem⟩ := List.mem_flatMap.mp hmem
    obtain ⟨-, -, -, -, hslash⟩ := percent_digits (Text.lt_of_mem_utf8 hbyte)
    exact hslash hmem
  · rw [List.mem_singleton.mp hmem] at h
    exact h hc

theorem bytesOf_of_dots {segment : List Char} {n : Nat} (h : dots segment = List.replicate n '.') :
    bytesOf segment = List.replicate n 0x2E := by
  induction segment using dots.induct generalizing n with
  | case1 e rest he ih =>
    rw [dots, if_pos he] at h
    obtain _ | n := n
    · exact absurd h (List.cons_ne_nil _ _)
    obtain ⟨-, hrest⟩ := List.cons.inj h
    have hvalue : Text.ofDigits 16 ['2', e] = 0x2E := by rcases he with rfl | rfl <;> rfl
    rw [bytesOf, hvalue, ih hrest]
    rfl
  | case2 e rest he ih =>
    rw [dots, if_neg he] at h
    obtain _ | n := n
    · exact absurd h (List.cons_ne_nil _ _)
    exact absurd (List.cons.inj h).1 (by decide)
  | case3 c rest hne ih =>
    rw [dots] at h
    · obtain _ | n := n
      · exact absurd h (List.cons_ne_nil _ _)
      obtain ⟨rfl, hrest⟩ := List.cons.inj h
      rw [bytesOf_cons (by decide), ih hrest]
      rfl
    · exact hne
  | case4 =>
    obtain _ | n := n
    · rfl
    · exact absurd h.symm (List.cons_ne_nil _ _)

/-- Only a text of dots is encoded as one. -/
theorem eq_of_dots_encode {n : Nat} (h : '%' ∉ text) (hdots : dots (encode isEncoded text) = List.replicate n '.') :
    text = List.replicate n '.' := by
  have hbytes : text.flatMap Text.utf8 = (List.replicate n '.').flatMap Text.utf8 := by
    rw [← bytesOf_encode h, bytesOf_of_dots hdots, List.flatMap_replicate]
    exact List.flatten_replicate_singleton.symm
  exact Text.flatMap_utf8_injective hbytes

end PagedFind.Http.Url
