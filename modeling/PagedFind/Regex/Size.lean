import PagedFind.Regex.Part

namespace PagedFind.Regex

abbrev ByteRange := Nat × Nat

def utf8Of (code : Nat) : Nat → List Nat
  | 0 => []
  | 1 => [code]
  | 2 => [0xC0 + code / 64, 0x80 + code % 64]
  | 3 => [0xE0 + code / 4096, 0x80 + code / 64 % 64, 0x80 + code % 64]
  | _ => [0xF0 + code / 262144, 0x80 + code / 4096 % 64, 0x80 + code / 64 % 64, 0x80 + code % 64]

/-- Splits a range of code points with forms of one length until each piece is a product of ranges of
bytes; `unit` is the number of code points that share all bytes but the last ones. -/
def splitForms (length : Nat) : List Nat → Nat → Nat → List (List ByteRange)
  | [], lo, hi => [(utf8Of lo length).zip (utf8Of hi length)]
  | unit :: units, lo, hi =>
    if lo / unit = hi / unit then splitForms length units lo hi
    else
      let first := (lo / unit + 1) * unit
      let last := hi / unit * unit
      let before := if lo % unit = 0 then [] else splitForms length units lo (first - 1)
      let start := if lo % unit = 0 then lo else first
      let after := if hi % unit = unit - 1 then [] else splitForms length units last hi
      let stop := if hi % unit = unit - 1 then hi else last - 1
      let middle := if start ≤ stop then [(utf8Of start length).zip (utf8Of stop length)] else []
      before ++ middle ++ after

def formLengths : List (Nat × Nat × Nat) :=
  [(1, 0, 0x7F), (2, 0x80, 0x7FF), (3, 0x800, 0xD7FF), (3, 0xE000, 0xFFFF), (4, 0x10000, 0x10FFFF)]

def formsOf (range : Nat × Nat) : List (List ByteRange) :=
  formLengths.flatMap fun (length, least, greatest) =>
    let lo := max range.1 least
    let hi := min range.2 greatest
    if lo ≤ hi then splitForms length ((List.range (length - 1)).map fun i => Nat.pow 64 (length - 1 - i)) lo hi
    else []

def branches : List (List ByteRange) → List (ByteRange × List (List ByteRange))
  | [] => []
  | [] :: rest => branches rest
  | (r :: tail) :: rest =>
    match branches rest with
    | (r', tails) :: others =>
      if r = r' then (r, tail :: tails) :: others else (r, [tail]) :: (r', tails) :: others
    | [] => [(r, [tail])]

/-- The states that read given forms, each with its number of transitions; two states that read the
same forms are one. -/
def formStates : Nat → List (List ByteRange) → List (List (List ByteRange) × Nat)
  | 0, _ => []
  | depth + 1, forms =>
    let next := branches forms
    if next.isEmpty then []
    else (forms, next.length) :: next.flatMap fun (_, tails) => formStates depth tails

def distinct {α : Type} [BEq α] : List α → List α
  | [] => []
  | x :: xs => if xs.contains x then distinct xs else x :: distinct xs

def stateBytes : Nat := 32

def sparseBytes (transitions : Nat) : Nat := stateBytes + 8 * transitions

def rangesBytes (transitions : Nat) : Nat := if transitions = 1 then stateBytes else sparseBytes transitions

def unionBytes (ways : Nat) : Nat := stateBytes + 4 * ways

def total (sizes : List Nat) : Nat := sizes.foldr (· + ·) 0

/-- The automata of a set of characters, read forwards and backwards. ASCII sets need one state; others share the
ends of forms forwards and their starts backwards. -/
def setBytes (s : CharSet) (backwards : Bool) : Nat :=
  if s.isAscii then stateBytes + rangesBytes s.ranges.length
  else
    let forms := s.ranges.flatMap formsOf
    if backwards then
      let starts := distinct (forms.flatMap fun form =>
        (List.range form.length).map fun i => form.take (i + 1))
      unionBytes forms.length + stateBytes + stateBytes * starts.length
    else
      let states := distinct (formStates 5 forms)
      stateBytes + total (states.map fun state => sparseBytes state.2)

/-- No set takes more than this: a range has at most twenty-one forms, of at most four states with a transition
each. -/
def setBytesBound (s : CharSet) : Nat := 2 * stateBytes + 21 * 4 * sparseBytes 1 * s.ranges.length

/-- The words between those that end here. Of several that end before any other goes on only one counts. -/
def chunks (words : List (List Nat)) : List (List (List Nat)) :=
  match words with
  | [] :: rest => [] :: go (rest.dropWhile List.isEmpty)
  | words => go words
where
  go : List (List Nat) → List (List (List Nat))
    | [] => [[]]
    | [] :: rest => [] :: go rest
    | word :: rest =>
      match go rest with
      | chunk :: more => (word :: chunk) :: more
      | [] => [[word]]

/-- The bytes of the trie of words, in the order in which they were added, below one of its nodes. The words that
end there part those before them from those after them; a node where all words end is the end of the trie. -/
def trieBytes : Nat → List (List Nat) → Nat
  | 0, _ => 0
  | depth + 1, words =>
    if words.all List.isEmpty then 0
    else
      let chunks := chunks words
      let filled := chunks.filter fun chunk => !chunk.isEmpty
      let below (chunk : List (List Nat)) : Nat :=
        let firsts := distinct (chunk.filterMap List.head?)
        rangesBytes firsts.length + total (firsts.map fun first =>
          trieBytes depth ((chunk.filter fun word => word.head? == some first).map List.tail))
      unionBytes (filled.length + (chunks.length - 1)) + total (filled.map below)

def Part.codes? : Part → Option (List Nat)
  | .literal [] => none
  | .literal codes => some codes
  | _ => none

mutual

/-- The bytes of the automaton of a part. Counted parts are written out, and only the automaton that reads forwards
has states for captures. -/
def Part.bytes (ofSet : CharSet → Nat) (backwards : Bool) : Part → Nat
  | .literal codes => stateBytes * Nat.max 1 (codes.flatMap codeBytes).length
  | .set s => ofSet s
  | .spot _ => stateBytes
  | .capture body => Part.bytes ofSet backwards body + if backwards then 0 else 2 * stateBytes
  | .repetition min max _ body =>
    let b := Part.bytes ofSet backwards body
    match min, max with
    | 0, some 1 => b + unionBytes 2 + stateBytes
    | 0, none =>
      if body.lengths.1.any (0 < ·) then b + unionBytes 2 else b + 2 * unionBytes 2 + stateBytes
    | min, none => min * b + unionBytes 2
    | min, some max =>
      if min = max then min * b
      else (if min = 0 then stateBytes else min * b) + stateBytes + (max - min) * (b + unionBytes 2)
  | .concat items => total (Part.bytesOf ofSet backwards items)
  | .alternate ways =>
    match ways.mapM Part.codes? with
    | some literals =>
      let words := literals.map fun codes => codes.flatMap codeBytes
      let words := if backwards then words.map List.reverse else words
      stateBytes + trieBytes ((words.map List.length).foldl Nat.max 0 + 1) words
    | none => unionBytes ways.length + stateBytes + total (Part.bytesOf ofSet backwards ways)

def Part.bytesOf (ofSet : CharSet → Nat) (backwards : Bool) : List Part → List Nat
  | [] => []
  | p :: ps => Part.bytes ofSet backwards p :: Part.bytesOf ofSet backwards ps

end

def firstPinned : List (Bool × Bool) → Bool
  | [] => false
  | (pinned, zeroWidth) :: rest => pinned || (zeroWidth && firstPinned rest)

mutual

/-- Whether a part matches only from the start of a text on, or backwards only from its end on. -/
def Part.isPinned (backwards : Bool) : Part → Bool
  | .spot .textStart => !backwards
  | .spot .textEnd => backwards
  | .repetition min _ _ body => min ≠ 0 && Part.isPinned backwards body
  | .capture body => Part.isPinned backwards body
  | .concat items =>
    let marks := Part.pins backwards items
    firstPinned (if backwards then marks.reverse else marks)
  | .alternate ways => (Part.pins backwards ways).all (·.1)
  | _ => false

def Part.pins (backwards : Bool) : List Part → List (Bool × Bool)
  | [] => []
  | p :: ps => (Part.isPinned backwards p, p.isZeroWidth) :: Part.pins backwards ps

end

/-- The bytes of the whole automaton of a pattern: before it what skips to a match, unless the pattern is pinned;
around it the states of the match as a capture; and after it the state of success. -/
def Part.programBytes (ofSet : CharSet → Nat) (backwards : Bool) (p : Part) : Nat :=
  let skip := if p.isPinned backwards then stateBytes else unionBytes 2 + stateBytes + rangesBytes 1
  skip + Part.bytes ofSet backwards (.capture p) + stateBytes

mutual

def Part.sets : Part → List CharSet
  | .set s => [s]
  | .repetition _ _ _ body => body.sets
  | .capture body => body.sets
  | .concat items => Part.setsOf items
  | .alternate ways => Part.setsOf ways
  | _ => []

def Part.setsOf : List Part → List CharSet
  | [] => []
  | p :: ps => p.sets ++ Part.setsOf ps

end

def maxBytes : Nat := 10 * Nat.pow 2 20

/-- Whether both automata of a pattern fit, the one that reads a text byte by byte from its start and the one that
reads it from its end. The sizes of sets are worked out only where a rough bound on them does not settle the
question. -/
def Node.fits (n : Node) : Bool :=
  let p := n.part
  let within (forwards backwards : CharSet → Nat) : Bool :=
    p.programBytes forwards false ≤ maxBytes && p.programBytes backwards true ≤ maxBytes
  within setBytesBound setBytesBound ||
    let sets := distinct p.sets
    let forwards := sets.map fun s => (s, setBytes s false)
    let backwards := sets.map fun s => (s, setBytes s true)
    within (fun s => (forwards.lookup s).getD 0) (fun s => (backwards.lookup s).getD 0)

end PagedFind.Regex
