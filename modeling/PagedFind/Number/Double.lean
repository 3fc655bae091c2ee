namespace PagedFind

/-- The quotient of two naturals, rounded to the nearest, a half going to the even neighbour. -/
def roundDiv (num den : Nat) : Nat :=
  let q := num / den
  let r := num % den
  if 2 * r < den then q
  else if den < 2 * r then q + 1
  else q + q % 2

def unitsPerOne : Nat := Nat.pow 2 1074

def roundTo53 (n : Nat) : Nat :=
  let s := n.log2 - 52
  roundDiv n (Nat.pow 2 s) * Nat.pow 2 s

/-- A finite binary64 number. Each is a whole multiple of the smallest positive one, `2 ^ (-1074)`, and these
multiples are the grid; its absolute value is `mantissa * 2 ^ scale` grid steps. -/
structure Double where
  negative : Bool
  mantissa : Nat
  scale : Nat
  mantissa_lt : mantissa < Nat.pow 2 53
  scale_le : scale ≤ 2045
  normal : Nat.pow 2 52 ≤ mantissa ∨ scale = 0
deriving DecidableEq, Repr

namespace Double

def ofParts? (negative : Bool) (mantissa scale : Nat) : Option Double :=
  if h : mantissa < Nat.pow 2 53 ∧ scale ≤ 2045 ∧ (Nat.pow 2 52 ≤ mantissa ∨ scale = 0) then
    some ⟨negative, mantissa, scale, h.1, h.2.1, h.2.2⟩
  else none

def zero (negative : Bool) : Double := ⟨negative, 0, 0, by decide, by decide, .inr rfl⟩

def magnitude (x : Double) : Nat := x.mantissa * Nat.pow 2 x.scale

def units (x : Double) : Int :=
  if x.negative then -(x.magnitude : Int) else x.magnitude

def isZero (x : Double) : Bool := x.mantissa == 0

def neg (x : Double) : Double := { x with negative := !x.negative }

/-- The number nearest to `num / den` grid steps, ties to even; none beyond the finite range. -/
def ofRatio? (negative : Bool) (num den : Nat) : Option Double :=
  let s := (num / den).log2 - 52
  let m := roundDiv num (den * Nat.pow 2 s)
  if m = Nat.pow 2 53 then ofParts? negative (Nat.pow 2 52) (s + 1) else ofParts? negative m s

def ofNat? (n : Nat) : Option Double := ofRatio? false (n * unitsPerOne) 1

def mul? (x y : Double) : Option Double :=
  ofRatio? (x.negative != y.negative) (x.magnitude * y.magnitude) unitsPerOne

def div? (x y : Double) : Option Double :=
  ofRatio? (x.negative != y.negative) (x.magnitude * unitsPerOne) y.magnitude

end Double

/-- A number as a document holds it: an integer stays one, all else is binary64. -/
inductive Number where
  | integer (value : Int)
  | double (value : Double)
deriving DecidableEq, Repr

namespace Number

/-- The binary64 image of a number, in grid steps. -/
def units : Number → Int
  | .integer n => n.sign * (roundTo53 n.natAbs * unitsPerOne : Nat)
  | .double x => x.units

end Number

end PagedFind
