import PagedFind.Number.Double

namespace PagedFind

structure Decimal where
  digits : Nat
  exponent : Int
deriving DecidableEq, Repr

def leastUpTo (p : Nat → Bool) (n : Nat) : Nat :=
  ((List.range n).find? p).getD n

namespace Double

/-- The numbers that round to a given one fill an interval around it; all three points count
quarters of a grid step. -/
structure Interval where
  low : Nat
  value : Nat
  high : Nat
  closed : Bool

/-- A mantissa that starts a new power of two has its lower neighbour at half the distance. -/
def interval (x : Double) : Interval :=
  let v := 4 * x.magnitude
  let gap := 2 * Nat.pow 2 x.scale
  let below := if x.mantissa = Nat.pow 2 52 ∧ 0 < x.scale then Nat.pow 2 x.scale else gap
  ⟨v - below, v, v + gap, x.mantissa % 2 = 0⟩

def decimalExponent (x : Double) : Int :=
  let u := x.magnitude
  if unitsPerOne ≤ u then
    (Nat.toDigits 10 (u / unitsPerOne)).length - 1
  else
    -(leastUpTo (fun k => unitsPerOne ≤ u * Nat.pow 10 k) 330 : Int)

/-- The point of the grid of multiples of `10 ^ exponent` nearest to the number, if one of its two
neighbours there rounds to the number; of two at one distance, the one with an even last digit. -/
def decimalOn? (i : Interval) (exponent : Int) : Option Decimal :=
  let up := Nat.pow 10 (-exponent).toNat
  let den := 4 * unitsPerOne * Nat.pow 10 exponent.toNat
  let inside (c : Nat) : Bool :=
    let p := c * den
    if i.closed then i.low * up ≤ p && p ≤ i.high * up else i.low * up < p && p < i.high * up
  let near := roundDiv (i.value * up) den
  let floor := i.value * up / den
  let other := if near = floor then floor + 1 else floor
  if inside near then some ⟨near, exponent⟩
  else if inside other then some ⟨other, exponent⟩
  else none

/-- The digits of the first grid, coarsest first, that has a point reading back as the number. -/
def shortest (x : Double) : Decimal :=
  if x.isZero then ⟨0, 0⟩ else
  let i := x.interval
  let e := x.decimalExponent
  let found := (List.range 17).findSome? fun (k : Nat) => decimalOn? i (e - k)
  found.getD ⟨x.magnitude, 0⟩

end Double

def Decimal.trim (d : Decimal) : Decimal :=
  let kept := ((Nat.toDigits 10 d.digits).reverse.dropWhile (· == '0')).reverse
  ⟨kept.foldl (fun n c => 10 * n + (c.toNat - 48)) 0,
    d.exponent + ((Nat.toDigits 10 d.digits).length - kept.length : Nat)⟩

/-- How a binary64 number is written: plainly while the exponent of its first digit is in the
range, else with an exponent that always has a sign. -/
structure FloatLayout where
  plainFrom : Int
  plainTo : Int

namespace FloatLayout

def plain (digits : List Char) (exponent : Int) : List Char :=
  let n : Int := digits.length
  if 0 ≤ exponent then digits ++ List.replicate exponent.toNat '0' ++ ['.', '0']
  else if -exponent < n then
    let k := (n + exponent).toNat
    digits.take k ++ '.' :: digits.drop k
  else '0' :: '.' :: List.replicate (-exponent - n).toNat '0' ++ digits

def scientific (digits : List Char) (lead : Int) : List Char :=
  let mark := if lead < 0 then '-' else '+'
  let tail := 'e' :: mark :: Nat.toDigits 10 lead.natAbs
  match digits with
  | [] => tail
  | [d] => d :: tail
  | d :: ds => d :: '.' :: ds ++ tail

def write (layout : FloatLayout) (x : Double) : List Char :=
  let sign := if x.negative then ['-'] else []
  if x.isZero then sign ++ ['0', '.', '0'] else
  let d := x.shortest.trim
  let digits := Nat.toDigits 10 d.digits
  let lead := d.exponent + (digits.length - 1 : Nat)
  if layout.plainFrom ≤ lead ∧ lead ≤ layout.plainTo then sign ++ plain digits d.exponent
  else sign ++ scientific digits lead

end FloatLayout

namespace Number

/-- Documents write a number plainly from `1e-5` up to below `1e16`. -/
def layout : FloatLayout := ⟨-5, 15⟩

def integerText (n : Int) : List Char :=
  if n < 0 then '-' :: Nat.toDigits 10 n.natAbs else Nat.toDigits 10 n.natAbs

def text : Number → List Char
  | .integer n => integerText n
  | .double x => layout.write x

end Number

end PagedFind
