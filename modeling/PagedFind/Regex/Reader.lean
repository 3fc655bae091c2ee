import PagedFind.Regex.ClassReader

namespace PagedFind.Regex

structure GroupFrame where
  captures : Bool
  changes : FlagChanges
  items : List Tree
  alternatives : List Tree
  spaced : Bool

/-- The innermost open group: its finished alternatives and the items of the one under way, both in
reverse order, and the groups around it. -/
structure Reading where
  frames : List GroupFrame
  alternatives : List Tree
  items : List Tree
  names : List String
  cursor : Cursor

namespace Reading

def add (r : Reading) (item : Tree) (c : Cursor) : Reading :=
  { r with items := item :: r.items, cursor := c }

def body (r : Reading) : Tree :=
  let last := Tree.ofItems r.items.reverse
  if r.alternatives.isEmpty then last else .alternate (r.alternatives.reverse ++ [last])

end Reading

def flagOf? : Char → Option Flag
  | 'i' => some .ignoreCase
  | 'm' => some .multiLine
  | 's' => some .dotAll
  | 'U' => some .swapGreed
  | 'u' => some .unicode
  | 'R' => some .crlf
  | 'x' => some .spaced
  | _ => none

/-- Flags up to a colon or a closing parenthesis, which is given back. A minus sign, allowed once and
not last, turns off those after it. -/
def readFlags (done : FlagChanges) (on dangling : Bool) :
    List Char → Except Fault (FlagChanges × Char × List Char)
  | [] => .error .unsupported
  | c :: rest =>
    if c = ':' ∨ c = ')' then
      if dangling then .error .unsupported else .ok (done.reverse, c, rest)
    else if c = '-' then
      if on then readFlags done false true rest else .error .unsupported
    else match flagOf? c with
      | none => .error .unsupported
      | some flag =>
        if done.any (·.1 = flag) then .error .unsupported
        else readFlags ((flag, on) :: done) on false rest

/-- The name of a group up to the closing angle bracket: it starts with a letter or an underscore,
and digits, dots and square brackets may follow. -/
def readName (names : List String) (c : Cursor) : Except Fault (String × Cursor) :=
  let name := c.rest.takeWhile (· != '>')
  let letter (ch : Char) := Unicode.alphabeticChars.contains ch.toNat
  let isFirst (ch : Char) := ch == '_' || letter ch
  let isLater (ch : Char) :=
    isFirst ch || ch == '.' || ch == '[' || ch == ']' || Unicode.numericChars.contains ch.toNat
  let text := String.ofList name
  let closed := (c.rest.drop name.length).head? == some '>'
  match name with
  | [] => .error .unsupported
  | first :: later =>
    if closed && isFirst first && later.all isLater && !names.contains text then
      .ok (text, c.skip (name.length + 1))
    else .error .unsupported

def flagState (flag : Flag) (changes : FlagChanges) : Option Bool := changes.lookup flag

def openGroup (r : Reading) : Except Fault Reading := do
  let c := r.cursor.advance
  let enter (captures : Bool) (changes : FlagChanges) (names : List String) (c : Cursor) :=
    let spaced := (flagState .spaced changes).getD c.spaced
    let frame : GroupFrame := ⟨captures, changes, r.items, r.alternatives, c.spaced⟩
    Reading.mk (frame :: r.frames) [] [] names { c with spaced := spaced }
  if c.startsWith "?=".toList || c.startsWith "?!".toList
      || c.startsWith "?<=".toList || c.startsWith "?<!".toList then
    throw .unsupported
  else if c.startsWith "?P<".toList then
    let (name, c) ← readName r.names (c.skip 3)
    return enter true [] (name :: r.names) c
  else if c.startsWith "?<".toList then
    let (name, c) ← readName r.names (c.skip 2)
    return enter true [] (name :: r.names) c
  else if c.isAt '?' then
    let c := c.bump
    if c.atEnd then throw .groupUnclosed
    let (changes, stop, rest) ← readFlags [] true false c.rest
    if stop = ':' then return enter false changes r.names { c with rest := rest }
    else if changes.isEmpty then throw .operandMissing
    else
      let spaced := (flagState .spaced changes).getD c.spaced
      return r.add (.flags changes) ⟨rest, spaced⟩
  else return enter true [] r.names c

def closeGroup (r : Reading) : Except Fault Reading :=
  match r.frames with
  | [] => .error .groupUnopened
  | frame :: frames =>
    let group := Tree.group frame.captures frame.changes r.body
    let cursor : Cursor := { r.cursor with spaced := frame.spaced }
    .ok ⟨frames, frame.alternatives, group :: frame.items, r.names, cursor.bump⟩

def operand (r : Reading) : Except Fault (Tree × List Tree) :=
  match r.items with
  | [] => .error .operandMissing
  | .flags _ :: _ => .error .operandMissing
  | item :: items => .ok (item, items)

def readSign (min : Nat) (max : Option Nat) (r : Reading) : Except Fault Reading := do
  let (item, items) ← operand r
  let c := r.cursor.bump
  let lazy := c.isAt '?'
  return { r with items := .repetition min max lazy item :: items, cursor := if lazy then c.bump else c }

/-- A count of at most thirty-two bits, with blanks around it. -/
def readCount (c : Cursor) : Option Nat × Cursor :=
  let c := { c with rest := c.rest.dropWhile Text.isBlank }
  let (digits, c) := c.takeWhile Char.isDigit
  let c := { c with rest := c.rest.dropWhile Text.isBlank }
  let n := Text.ofDigits 10 digits
  (if digits.isEmpty ∨ Nat.pow 2 32 ≤ n then none else some n, c)

def orUnsupported {α : Type} : Option α → Except Fault α
  | some a => .ok a
  | none => .error .unsupported

def readBounds (c : Cursor) : Except Fault (Nat × Option Nat × Cursor) := do
  let (low, c) := readCount c
  if c.atEnd then throw .countUnclosed
  if c.isAt ',' then
    let c := c.advance
    if c.atEnd then throw .countUnclosed
    if c.isAt '}' then
      return (← orUnsupported low, none, c)
    else
      let min ← orUnsupported low
      let (high, c) := readCount c
      return (min, some (← orUnsupported high), c)
  else
    let n ← orUnsupported low
    return (n, some n, c)

def readCounted (r : Reading) : Except Fault Reading := do
  let (item, items) ← operand r
  let c := r.cursor.advance
  if c.atEnd then throw .countUnclosed
  let (min, max, c) ← readBounds c
  if !c.isAt '}' then throw .countUnclosed
  let c := c.advance
  let lazy := c.isAt '?'
  if max.any (· < min) then throw .countInvalid
  return { r with items := .repetition min max lazy item :: items, cursor := if lazy then c.bump else c }

def readOne (r : Reading) : Except Fault Reading :=
  let c := r.cursor
  let take (next : Except Fault (Tree × Cursor)) : Except Fault Reading :=
    next.map fun (item, c) => r.add item c
  match c.here with
  | '(' => openGroup r
  | ')' => closeGroup r
  | '|' =>
    let last := Tree.ofItems r.items.reverse
    .ok { r with alternatives := last :: r.alternatives, items := [], cursor := c.bump }
  | '[' => take (readClass c)
  | '?' => readSign 0 (some 1) r
  | '*' => readSign 0 none r
  | '+' => readSign 1 none r
  | '{' => readCounted r
  | '\\' => take (readEscape c)
  | '.' => .ok (r.add .dot c.bump)
  | '^' => .ok (r.add (.place .lineStart) c.bump)
  | '$' => .ok (r.add (.place .lineEnd) c.bump)
  | ch => .ok (r.add (.literal ⟨ch, false⟩) c.bump)

def readAll (steps : Nat) (r : Reading) : Except Fault Tree :=
  let r := { r with cursor := r.cursor.bumpSpace }
  if r.cursor.atEnd then
    if r.frames.isEmpty then .ok r.body else .error .groupUnclosed
  else match steps with
    | 0 => .error .unsupported
    | steps + 1 =>
      match readOne r with
      | .ok r => readAll steps r
      | .error fault => .error fault

def maxDepth : Nat := 250

def Tree.read (pattern : String) : Except Fault Tree := do
  let cs := pattern.toList
  let tree ← readAll cs.length ⟨[], [], [], [], ⟨cs, false⟩⟩
  if tree.depth ≤ maxDepth then return tree else throw .unsupported

end PagedFind.Regex
