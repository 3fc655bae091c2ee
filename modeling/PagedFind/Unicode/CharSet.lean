namespace PagedFind

/-- A set of code points: `(lo, hi)` holds those from `lo` to `hi`, both included. -/
structure CharSet where
  ranges : List (Nat × Nat)
deriving DecidableEq, Repr

namespace CharSet

def maxCode : Nat := 0x10FFFF

def empty : CharSet := ⟨[]⟩

def all : CharSet := ⟨[(0, maxCode)]⟩

def range (lo hi : Nat) : CharSet := ⟨[(lo, hi)]⟩

def single (code : Nat) : CharSet := range code code

def containsIn (code : Nat) : List (Nat × Nat) → Bool
  | [] => false
  | (lo, hi) :: rest => lo ≤ code && (code ≤ hi || containsIn code rest)

def contains (s : CharSet) (code : Nat) : Bool := containsIn code s.ranges

/-- Joins ranges that rise by their lower ends, where they overlap or touch. -/
def merge : List (Nat × Nat) → List (Nat × Nat)
  | [] => []
  | (lo, hi) :: rest => go lo hi rest
where
  go (lo hi : Nat) : List (Nat × Nat) → List (Nat × Nat)
    | [] => [(lo, hi)]
    | (lo', hi') :: rest =>
      if lo' ≤ hi + 1 then go lo (max hi hi') rest else (lo, hi) :: go lo' hi' rest

def ofRanges (ranges : List (Nat × Nat)) : CharSet :=
  ⟨merge (ranges.mergeSort fun a b => a.1 ≤ b.1)⟩

def ofCodes (codes : List Nat) : CharSet := ofRanges (codes.map fun c => (c, c))

def union (s t : CharSet) : CharSet := ofRanges (s.ranges ++ t.ranges)

def unionAll (sets : List CharSet) : CharSet := ofRanges (sets.flatMap ranges)

def gaps (start : Nat) : List (Nat × Nat) → List (Nat × Nat)
  | [] => if start ≤ maxCode then [(start, maxCode)] else []
  | (lo, hi) :: rest =>
    if start < lo then (start, lo - 1) :: gaps (hi + 1) rest else gaps (hi + 1) rest

def complement (s : CharSet) : CharSet := ⟨gaps 0 s.ranges⟩

def inter (s t : CharSet) : CharSet := (s.complement.union t.complement).complement

def diff (s t : CharSet) : CharSet := s.inter t.complement

def symmDiff (s t : CharSet) : CharSet := (s.diff t).union (t.diff s)

def negateIf (negated : Bool) (s : CharSet) : CharSet := if negated then s.complement else s

def isAscii (s : CharSet) : Bool := s.ranges.all fun (_, hi) => hi < 128

end CharSet

end PagedFind

namespace PagedFind.Unicode

def packedDigit (c : Char) : Nat :=
  let n := c.toNat
  if 65 ≤ n ∧ n ≤ 90 then n - 65
  else if 97 ≤ n ∧ n ≤ 122 then n - 71
  else if 48 ≤ n ∧ n ≤ 57 then n + 4
  else if n = 45 then 62
  else 63

/-- The numbers in a text, `value` and `weight` being those of the number under way. A number is written in groups
of five bits, the lowest first, and a sixth bit says that another group follows. -/
def unpackFrom (value weight : Nat) : List Char → List Nat
  | [] => []
  | c :: rest =>
    let d := packedDigit c
    if d < 32 then (value + d * weight) :: unpackFrom 0 1 rest
    else unpackFrom (value + (d - 32) * weight) (32 * weight) rest

def unpack (lines : List String) : List Nat := unpackFrom 0 1 (lines.flatMap String.toList)

def unpackRanges (start : Nat) : List Nat → List (Nat × Nat)
  | gap :: length :: rest =>
    let lo := start + gap
    (lo, lo + length) :: unpackRanges (lo + length + 1) rest
  | _ => []

def unpackSet (lines : List String) : CharSet := ⟨unpackRanges 0 (unpack lines)⟩

abbrev Table := List (List String × List String)

def Table.find? (table : Table) (name : String) : Option CharSet :=
  (List.find? (fun row => row.1.contains name) table).map fun row => unpackSet row.2

end PagedFind.Unicode
