import PagedFind.Regex.Node
import PagedFind.Text.Basic

namespace PagedFind.Regex

/-- A pattern in the form that its automata are built from: characters in a row are one literal, the empty one
being the empty pattern, and a choice between characters is a set. -/
inductive Part where
  | literal (codes : List Nat)
  | set (s : CharSet)
  | spot (s : Spot)
  | repetition (min : Nat) (max : Option Nat) (lazy : Bool) (body : Part)
  | capture (body : Part)
  | concat (items : List Part)
  | alternate (ways : List Part)

def codeBytes (code : Nat) : List Nat := Text.utf8 (Char.ofNat code)

namespace Part

mutual

/-- The least and the greatest number of bytes that a part matches, where there are such numbers. -/
def lengths : Part → Option Nat × Option Nat
  | .literal codes =>
    let n := (codes.flatMap codeBytes).length
    (some n, some n)
  | .set s =>
    (s.ranges.head?.map fun r => (codeBytes r.1).length, s.ranges.getLast?.map fun r => (codeBytes r.2).length)
  | .spot _ => (some 0, some 0)
  | .repetition min max _ body =>
    let (least, greatest) := body.lengths
    (least.map (min * ·), max.bind fun n => greatest.map (n * ·))
  | .capture body => body.lengths
  | .concat items => lengthsAll items
  | .alternate ways => lengthsAny ways

def lengthsAll : List Part → Option Nat × Option Nat
  | [] => (some 0, some 0)
  | p :: ps =>
    let (least, greatest) := p.lengths
    let (least', greatest') := lengthsAll ps
    (least.bind fun n => least'.map (n + ·), greatest.bind fun n => greatest'.map (n + ·))

def lengthsAny : List Part → Option Nat × Option Nat
  | [] => (none, none)
  | [p] => p.lengths
  | p :: ps =>
    let (least, greatest) := p.lengths
    let (least', greatest') := lengthsAny ps
    (least.bind fun n => least'.map (Nat.min n), greatest.bind fun n => greatest'.map (Nat.max n))

end

def isZeroWidth (p : Part) : Bool := p.lengths.2 == some 0

mutual

/-- Whether two parts are written alike. Two captures never are: each has a number of its own. -/
def same : Part → Part → Bool
  | .literal a, .literal b => a == b
  | .set s, .set t => s == t
  | .spot s, .spot t => s == t
  | .repetition min max lazy body, .repetition min' max' lazy' body' =>
    min == min' && max == max' && lazy == lazy' && body.same body'
  | .concat ps, .concat qs => sameAll ps qs
  | .alternate ps, .alternate qs => sameAll ps qs
  | _, _ => false

def sameAll : List Part → List Part → Bool
  | [], [] => true
  | p :: ps, q :: qs => p.same q && sameAll ps qs
  | _, _ => false

end

def ofSet (s : CharSet) : Part :=
  match s.ranges with
  | [(lo, hi)] => if lo = hi then .literal [lo] else .set s
  | _ => .set s

def items : Part → List Part
  | .concat ps => ps
  | .literal [] => []
  | p => [p]

def before : Part → List Part → List Part
  | .literal a, .literal b :: ps => .literal (a ++ b) :: ps
  | p, ps => p :: ps

def sequence (parts : List Part) : Part :=
  match (parts.flatMap items).foldr before [] with
  | [] => .literal []
  | [p] => p
  | ps => .concat ps

/-- Of what matches no character only one round matters. -/
def repeated (min : Nat) (max : Option Nat) (lazy : Bool) (body : Part) : Part :=
  let least := if body.isZeroWidth then Nat.min min 1 else min
  let greatest := if body.isZeroWidth then some (Nat.min (max.getD 1) 1) else max
  if greatest = some 0 then .literal []
  else if least = 1 ∧ greatest = some 1 then body
  else .repetition least greatest lazy body

def ways : Part → List Part
  | .alternate ps => ps
  | p => [p]

def mergedSet? : List Part → Option CharSet
  | [] => some .empty
  | .set s :: ps => (mergedSet? ps).map s.union
  | .literal [code] :: ps => (mergedSet? ps).map (CharSet.single code).union
  | _ :: _ => none

def anyOf (parts : List Part) : Part :=
  match parts.flatMap ways with
  | [p] => p
  | ps =>
    match mergedSet? ps with
    | some s => ofSet s
    | none => .alternate ps

def commonStart : List Part → List Part → List Part
  | p :: ps, q :: qs => if p.same q then p :: commonStart ps qs else []
  | _, _ => []

def sequence? : Part → Option (List Part)
  | .concat ps => some ps
  | _ => none

/-- A choice between sequences with a common start is that start and then a choice. -/
def choice (parts : List Part) : Part :=
  match anyOf parts with
  | .alternate ps =>
    match ps.mapM sequence? with
    | some (first :: rest) =>
      match rest.foldl commonStart first with
      | [] => .alternate ps
      | start =>
        sequence (start ++ [anyOf ((first :: rest).map fun items => sequence (items.drop start.length))])
    | _ => .alternate ps
  | p => p

end Part

mutual

def Node.part : Node → Part
  | .empty => .literal []
  | .set s => .ofSet s
  | .spot s => .spot s
  | .repetition min max lazy body => .repeated min max lazy body.part
  | .capture body => .capture body.part
  | .concat items => .sequence (Node.parts items)
  | .alternate items => .choice (Node.parts items)

def Node.parts : List Node → List Part
  | [] => []
  | x :: xs => x.part :: Node.parts xs

end

end PagedFind.Regex
