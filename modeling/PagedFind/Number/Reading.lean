import PagedFind.Number.Double
import PagedFind.Text.Basic

namespace PagedFind.Number

structure Numeral where
  negative : Bool
  whole : List Char
  fraction : List Char
  exponent : Option (Bool × List Char)

/-- Extends a number by digits while it fits in sixty-four bits; the digits left over are those
from the first that does not fit. -/
def absorb (n : Nat) : List Char → Nat × List Char
  | [] => (n, [])
  | d :: rest =>
    let next := 10 * n + Text.digitValue d
    if next ≤ Text.maxWord then absorb next rest else (n, d :: rest)

def tenPow? (k : Nat) : Option Double := Double.ofNat? (Nat.pow 10 k)

def descend (x : Double) (exponent : Int) : Nat → Double × Int
  | 0 => (x, exponent)
  | rounds + 1 =>
    if -308 ≤ exponent ∨ x.isZero then (x, exponent)
    else match (tenPow? 308).bind x.div? with
      | some y => descend y (exponent + 308) rounds
      | none => (x, exponent)

/-- `significand * 10 ^ exponent`; none beyond the finite range. Three divisions by `10 ^ 308`
take every significand of sixty-four bits to zero. -/
def scaled? (significand : Nat) (exponent : Int) : Option Double := do
  let x ← Double.ofNat? significand
  if 0 ≤ exponent then
    if exponent ≤ 308 then (tenPow? exponent.toNat).bind x.mul?
    else if x.isZero then some x else none
  else
    let (y, e) := descend x exponent 3
    if y.isZero then some y else (tenPow? (-e).toNat).bind y.div?

/-- The number of a numeral; none for one beyond the finite range. Without fraction and exponent it is an integer
where it fits in sixty-four bits. Any other is rounded twice: its digits, as one whole number, and then
their product with a rounded power of ten. -/
def ofNumeral? (n : Numeral) : Option Number :=
  let (whole, left) := absorb 0 n.whole
  let signed (x : Double) : Number := .double (if n.negative then x.neg else x)
  if left.isEmpty && n.fraction.isEmpty && n.exponent.isNone then
    if n.negative then
      if whole = 0 ∨ Nat.pow 2 63 < whole then (Double.ofNat? whole).map signed
      else some (.integer (-(whole : Int)))
    else some (.integer whole)
  else
    let (significand, rest) := absorb whole n.fraction
    let shift : Int := left.length - (n.fraction.length - rest.length : Nat)
    match n.exponent with
    | none => (scaled? significand shift).map signed
    | some (down, digits) =>
      let e := Text.ofDigits 10 digits
      if Nat.pow 2 31 ≤ e then
        if significand ≠ 0 ∧ !down then none else some (signed (Double.zero false))
      else (scaled? significand (if down then shift - e else shift + e)).map signed

end PagedFind.Number
