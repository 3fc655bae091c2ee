import PagedFind.Regex.Escape

namespace PagedFind.Regex

def asciiClass? (name : List Char) : Option CharSet :=
  let set (ranges : List (Char × Char)) : Option CharSet :=
    some (CharSet.ofRanges (ranges.map fun (lo, hi) => (lo.toNat, hi.toNat)))
  match String.ofList name with
  | "alnum" => set [('0', '9'), ('A', 'Z'), ('a', 'z')]
  | "alpha" => set [('A', 'Z'), ('a', 'z')]
  | "ascii" => set [('\x00', '\x7f')]
  | "blank" => set [('\t', '\t'), (' ', ' ')]
  | "cntrl" => set [('\x00', '\x1f'), ('\x7f', '\x7f')]
  | "digit" => set [('0', '9')]
  | "graph" => set [('!', '~')]
  | "lower" => set [('a', 'z')]
  | "print" => set [(' ', '~')]
  | "punct" => set [('!', '/'), (':', '@'), ('[', '\x60'), ('\x7b', '~')]
  | "space" => set [('\t', '\r'), (' ', ' ')]
  | "upper" => set [('A', 'Z')]
  | "word" => set [('0', '9'), ('A', 'Z'), ('_', '_'), ('a', 'z')]
  | "xdigit" => set [('0', '9'), ('A', 'F'), ('a', 'f')]
  | _ => none

def readAsciiClass? (c : Cursor) : Option (ClassTree × Cursor) :=
  match c.rest with
  | '[' :: ':' :: rest =>
    let (negated, rest) := match rest with
      | '^' :: rest => (true, rest)
      | rest => (false, rest)
    let name := rest.takeWhile (· != ':')
    match rest.dropWhile (· != ':') with
    | ':' :: ']' :: rest =>
      (asciiClass? name).map fun set => (.ascii set negated, { c with rest := rest })
    | _ => none
  | _ => none

/-- A bracket that is still open, with the items before it, or a set operation that still lacks its
right side. -/
inductive ClassFrame where
  | bracket (before : List ClassTree) (negated : Bool)
  | op (kind : SetOp) (lhs : ClassTree)

def leadingHyphens (steps : Nat) (items : List ClassTree) (c : Cursor) :
    Except Fault (List ClassTree × Cursor) :=
  match steps with
  | 0 => .ok (items, c)
  | steps + 1 =>
    if c.isAt '-' then
      let next := c.advance
      if next.atEnd then .error .classUnclosed
      else leadingHyphens steps (.literal ⟨'-', false⟩ :: items) next
    else .ok (items, c)

/-- The start of a bracket: a caret negates it, hyphens stand for themselves, and so does a closing
bracket that comes first. Items are in reverse order. -/
def openBracket (c : Cursor) : Except Fault (Bool × List ClassTree × Cursor) := do
  let c := c.advance
  if c.atEnd then throw .classUnclosed
  let negated := c.isAt '^'
  let c := if negated then c.advance else c
  if c.atEnd then throw .classUnclosed
  let (items, c) ← leadingHyphens c.rest.length [] c
  if items.isEmpty && c.isAt ']' then
    let c := c.advance
    if c.atEnd then throw .classUnclosed
    return (negated, [.literal ⟨']', false⟩], c)
  else return (negated, items, c)

def closeOp (rhs : ClassTree) : List ClassFrame → ClassTree × List ClassFrame
  | .op kind lhs :: frames => (.op kind lhs rhs, frames)
  | frames => (rhs, frames)

def readMember (c : Cursor) : Except Fault (Tree × Cursor) :=
  if c.isAt '\\' then readEscape c else .ok (.literal ⟨c.here, false⟩, c.bump)

def memberItem : Tree → Except Fault ClassTree
  | .literal l => .ok (.literal l)
  | .query q negated => .ok (.query q negated)
  | .shorthand s negated => .ok (.shorthand s negated)
  | _ => .error .unsupported

def memberLiteral : Tree → Except Fault Literal
  | .literal l => .ok l
  | _ => .error .unsupported

/-- A member or a range of members. A hyphen before a closing bracket or another hyphen makes no
range. -/
def readRange (c : Cursor) : Except Fault (ClassTree × Cursor) := do
  let (first, c) ← readMember c
  let c := c.bumpSpace
  if c.atEnd then throw .classUnclosed
  if !c.isAt '-' || c.peekSpace == some ']' || c.peekSpace == some '-' then
    return (← memberItem first, c)
  let c := c.advance
  if c.atEnd then throw .classUnclosed
  let (last, c) ← readMember c
  let lo ← memberLiteral first
  let hi ← memberLiteral last
  if lo.char ≤ hi.char then return (.range lo hi, c)
  else throw .rangeInvalid

def setOpAt? (c : Cursor) : Option SetOp :=
  if c.startsWith ['&', '&'] then some .inter
  else if c.startsWith ['-', '-'] then some .diff
  else if c.startsWith ['~', '~'] then some .symmDiff
  else none

/-- Reads on in the innermost open bracket, whose items so far are in reverse order. -/
def readBracket (steps : Nat) (frames : List ClassFrame) (items : List ClassTree) (c : Cursor) :
    Except Fault (Tree × Cursor) :=
  match steps with
  | 0 => .error .unsupported
  | steps + 1 =>
    let c := c.bumpSpace
    if c.atEnd then .error .classUnclosed
    else if c.isAt '[' then
      match readAsciiClass? c with
      | some (item, c) => readBracket steps frames (item :: items) c
      | none => do
        let (negated, inside, c) ← openBracket c
        readBracket steps (.bracket items negated :: frames) inside c
    else if c.isAt ']' then
      let (body, frames) := closeOp (.ofItems items.reverse) frames
      match frames with
      | [.bracket _ negated] => .ok (.bracket negated body, c.bump)
      | .bracket before negated :: frames =>
        readBracket steps frames (.bracket negated body :: before) c.bump
      | _ => .error .unsupported
    else match setOpAt? c with
      | some kind =>
        let (lhs, frames) := closeOp (.ofItems items.reverse) frames
        readBracket steps (.op kind lhs :: frames) [] (c.skip 2)
      | none => do
        let (item, c) ← readRange c
        readBracket steps frames (item :: items) c

def readClass (c : Cursor) : Except Fault (Tree × Cursor) := do
  let (negated, items, c) ← openBracket c
  readBracket (c.rest.length + 1) [.bracket [] negated] items c

end PagedFind.Regex
