import PagedFind.Regex.Reader
import PagedFind.Regex.Size

namespace PagedFind.Regex

def ofBits : List Bool → Nat
  | [] => 0
  | b :: rest => 2 * ofBits rest + b.toNat

structure Sides where
  before : Option Nat
  after : Option Nat

def sidesFrom (before : Option Nat) : List Nat → List Sides
  | [] => [⟨before, none⟩]
  | c :: rest => ⟨before, some c⟩ :: sidesFrom (some c) rest

def isWordCode (unicode : Bool) : Option Nat → Bool
  | none => false
  | some c =>
    if unicode then Unicode.wordChars.contains c
    else (Flags.asciiShorthand .word).contains c

/-- Whether a place is of a kind. With carriage returns as line ends too, a carriage return and the
line feed after it make one line end. -/
def Sides.isSpot (s : Sides) : Spot → Bool
  | .textStart => s.before.isNone
  | .textEnd => s.after.isNone
  | .lineStart false => s.before.isNone || s.before == some 10
  | .lineStart true =>
    s.before.isNone || s.before == some 10 || (s.before == some 13 && s.after != some 10)
  | .lineEnd false => s.after.isNone || s.after == some 10
  | .lineEnd true =>
    s.after.isNone || s.after == some 13 || (s.after == some 10 && s.before != some 13)
  | .boundary u => isWordCode u s.before != isWordCode u s.after
  | .noBoundary u => isWordCode u s.before == isWordCode u s.after
  | .wordStart u => !isWordCode u s.before && isWordCode u s.after
  | .wordEnd u => isWordCode u s.before && !isWordCode u s.after
  | .wordStartHalf u => !isWordCode u s.before
  | .wordEndHalf u => !isWordCode u s.after

/-- A pattern at work on one text: `take` steps over the characters in its set, `stay` keeps the places
in its set. A set is a number whose bit `i` stands for the place before character `i`. -/
inductive Machine where
  | empty
  | take (mask : Nat)
  | stay (mask : Nat)
  | repetition (min : Nat) (max : Option Nat) (body : Machine)
  | concat (items : List Machine)
  | alternate (items : List Machine)

mutual

def Node.machine (codes : List Nat) (places : List Sides) : Node → Machine
  | .empty => .empty
  | .set s => .take (ofBits (codes.map s.contains))
  | .spot s => .stay (ofBits (places.map (·.isSpot s)))
  | .repetition min max _ body => .repetition min max (Node.machine codes places body)
  | .capture body => Node.machine codes places body
  | .concat items => .concat (Node.machines codes places items)
  | .alternate items => .alternate (Node.machines codes places items)

def Node.machines (codes : List Nat) (places : List Sides) : List Node → List Machine
  | [] => []
  | x :: xs => Node.machine codes places x :: Node.machines codes places xs

end

def iterate (step : Nat → Nat) : Nat → Nat → Nat
  | 0, places => places
  | more + 1, places => if places = 0 then 0 else iterate step more (step places)

/-- All places reached within a number of steps; `fresh` are those reached by the last one only. -/
def spread (step : Nat → Nat) : Nat → Nat → Nat → Nat
  | 0, reached, _ => reached
  | more + 1, reached, fresh =>
    let next := step fresh
    let new := next ^^^ (next &&& reached)
    if new = 0 then reached else spread step more (reached ||| new) new

mutual

/-- The places where a pattern may end that starts at one of the given places. Of a count only as much
matters as the text has places: a longer run repeats a step that stays in place. -/
def Machine.run (size : Nat) : Machine → Nat → Nat
  | .empty, places => places
  | .take mask, places => 2 * (places &&& mask)
  | .stay mask, places => places &&& mask
  | .repetition min max body, places =>
    let step := fun places => Machine.run size body places
    let least := iterate step (Nat.min min size) places
    let more := match max with
      | none => size
      | some max => Nat.min (max - min) size
    spread step more least least
  | .concat items, places => Machine.runAll size items places
  | .alternate items, places => Machine.runAny size items places

def Machine.runAll (size : Nat) : List Machine → Nat → Nat
  | [], places => places
  | x :: xs, places => Machine.runAll size xs (Machine.run size x places)

def Machine.runAny (size : Nat) : List Machine → Nat → Nat
  | [], _ => 0
  | x :: xs, places => Machine.run size x places ||| Machine.runAny size xs places

end

def Node.isMatch (n : Node) (text : String) : Bool :=
  let codes := text.toList.map Char.toNat
  let places := sidesFrom none codes
  let size := places.length
  (n.machine codes places).run size (Nat.pow 2 size - 1) != 0

def fault? (text : String) : Option Fault :=
  match Tree.read text with
  | .ok _ => none
  | .error fault => some fault

def search (text : String) : Except Refusal (String → Bool) :=
  match Tree.read text with
  | .error _ => .error .invalid
  | .ok tree =>
    match tree.node .start with
    | none => .error .invalid
    | some (node, _) => if node.fits then .ok node.isMatch else .error .tooBig

/-- The engine that a program runs with. -/
instance engine : Engine := ⟨fault?, search⟩

end PagedFind.Regex
