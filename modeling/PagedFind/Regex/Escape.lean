import PagedFind.Regex.Cursor
import PagedFind.Regex.Tree
import PagedFind.Text.Basic

namespace PagedFind.Regex

open Unicode (ClassQuery)

def scalar? (code : Nat) : Option Char :=
  if code.isValidChar then some (Char.ofNat code) else none

def scalarTree (asByte : Bool) (code : Nat) (c : Cursor) : Except Fault (Tree × Cursor) :=
  match scalar? code with
  | some ch => .ok (.literal ⟨ch, asByte⟩, c)
  | none => .error .unsupported

def hexFixed (value : Nat) : Nat → Cursor → Except Fault (Nat × Cursor)
  | 0, c => .ok (value, c)
  | more + 1, c =>
    if c.atEnd then .error .escapeUnfinished
    else if Text.isDigitIn 16 c.here then
      hexFixed (16 * value + Text.digitValue c.here) more c.advance
    else .error .unsupported

/-- A code point after `x`, `u` or `U`: two, four or eight hexadecimal digits, or any number of them
in braces. -/
def readHex (letter : Char) (c : Cursor) : Except Fault (Tree × Cursor) :=
  let c := c.advance
  if c.atEnd then .error .escapeUnfinished
  else if c.isAt '{' then
    let (digits, c) := c.advance.takeWhile (· != '}')
    if !digits.all (Text.isDigitIn 16) then .error .unsupported
    else if c.atEnd then .error .escapeUnfinished
    else if digits.isEmpty then .error .unsupported
    else scalarTree false (Text.ofDigits 16 digits) c.advance
  else do
    let width := if letter = 'x' then 2 else if letter = 'u' then 4 else 8
    let (code, c) ← hexFixed 0 width c
    scalarTree (letter == 'x') code c

/-- The two sides of the first unequal sign, colon or equals sign, looked for in this order. -/
def cutQuery (name : List Char) : ClassQuery :=
  match cutUnequal name <|> Text.cutFirst ':' name <|> Text.cutFirst '=' name with
  | some (property, value) => .valued (String.ofList property) (String.ofList value)
  | none => .named (String.ofList name)
where
  cutUnequal : List Char → Option (List Char × List Char)
    | '!' :: '=' :: rest => some ([], rest)
    | c :: rest => (cutUnequal rest).map fun (before, after) => (c :: before, after)
    | [] => none

def readQuery (negated : Bool) (c : Cursor) : Except Fault (Tree × Cursor) :=
  let c := c.advance
  if c.atEnd then .error .escapeUnfinished
  else if c.isAt '{' then
    let (name, c) := c.advance.takeWhile (· != '}')
    if c.atEnd then .error .escapeUnfinished
    else .ok (.query (cutQuery name) negated, c.bump)
  else if c.isAt '\\' then .error .unsupported
  else .ok (.query (.named (String.singleton c.here)) negated, c.advance)

def boundaryName? (name : List Char) : Option Place :=
  match String.ofList name with
  | "start" => some .wordStart
  | "end" => some .wordEnd
  | "start-half" => some .wordStartHalf
  | "end-half" => some .wordEndHalf
  | _ => none

/-- A word boundary after its letter, perhaps with a name in braces. Braces that do not begin with a
letter or a hyphen are left for a repetition. -/
def readBoundary (c : Cursor) : Except Fault (Tree × Cursor) :=
  if !c.isAt '{' then .ok (.place .wordBoundary, c)
  else
    let inside := c.advance
    let isName (ch : Char) := ch.isAlpha || ch == '-'
    if inside.atEnd then .error .unsupported
    else if !isName inside.here then .ok (.place .wordBoundary, c)
    else
      let (name, after) := inside.takeWhile isName
      if !after.isAt '}' then .error .unsupported
      else match boundaryName? name with
        | some p => .ok (.place p, after.bump)
        | none => .error .unsupported

def isEscapable (c : Char) : Bool :=
  c.toNat < 128 && !c.isAlphanum && c != '<' && c != '>'

def readEscape (c : Cursor) : Except Fault (Tree × Cursor) :=
  let c := c.bump
  if c.atEnd then .error .escapeUnfinished
  else
    let after := c.bump
    let char (ch : Char) : Except Fault (Tree × Cursor) := .ok (.literal ⟨ch, false⟩, after)
    let place (p : Place) : Except Fault (Tree × Cursor) := .ok (.place p, after)
    let shorthand (s : Shorthand) (negated : Bool) : Except Fault (Tree × Cursor) :=
      .ok (.shorthand s negated, after)
    match c.here with
    | 'x' | 'u' | 'U' => readHex c.here c
    | 'p' => readQuery false c
    | 'P' => readQuery true c
    | 'd' => shorthand .digit false
    | 'D' => shorthand .digit true
    | 's' => shorthand .space false
    | 'S' => shorthand .space true
    | 'w' => shorthand .word false
    | 'W' => shorthand .word true
    | 'a' => char '\x07'
    | 'f' => char '\x0c'
    | 't' => char '\t'
    | 'n' => char '\n'
    | 'r' => char '\r'
    | 'v' => char '\x0b'
    | 'A' => place .textStart
    | 'z' => place .textEnd
    | 'b' => readBoundary after
    | 'B' => place .notWordBoundary
    | '<' => place .wordStart
    | '>' => place .wordEnd
    | ch => if isEscapable ch then char ch else .error .unsupported

end PagedFind.Regex
