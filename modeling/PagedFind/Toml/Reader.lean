import PagedFind.Toml.Scalar

namespace PagedFind.Toml

namespace Reader

def isBlank (c : Char) : Bool := c == ' ' || c == '\t'

def isPlain (c : Char) : Bool := c == '\t' || (0x20 ≤ c.toNat && c.toNat ≠ 0x7F)

def skipBlanks (text : List Char) : List Char := text.dropWhile isBlank

/-- What follows the end of a line, if one is here. -/
def lineEnd? : List Char → Option (List Char)
  | '\n' :: rest => some rest
  | '\r' :: '\n' :: rest => some rest
  | _ => none

def skipComment : List Char → List Char
  | '#' :: rest => rest.dropWhile isPlain
  | text => text

def codePoint? (digits : List Char) (count : Nat) : Option Char :=
  if digits.length = count ∧ digits.all (Text.isDigitIn 16) then
    let n := Text.ofDigits 16 digits
    if n.isValidChar then some (Char.ofNat n) else none
  else none

/-- The character of an escape and the number of characters after the backslash that it takes. -/
def escape? : List Char → Option (Char × Nat)
  | 'b' :: _ => some ('\x08', 1)
  | 't' :: _ => some ('\t', 1)
  | 'n' :: _ => some ('\n', 1)
  | 'f' :: _ => some ('\x0c', 1)
  | 'r' :: _ => some ('\r', 1)
  | '"' :: _ => some ('"', 1)
  | '\\' :: _ => some ('\\', 1)
  | 'u' :: rest => (codePoint? (rest.take 4) 4).map (·, 5)
  | 'U' :: rest => (codePoint? (rest.take 8) 8).map (·, 9)
  | _ => none

def basic (done : List Char) : List Char → Option (String × List Char)
  | [] => none
  | '"' :: rest => some (String.ofList done.reverse, rest)
  | '\\' :: rest =>
    match escape? rest with
    | some (c, taken) => basic (c :: done) (rest.drop taken)
    | none => none
  | c :: rest => if isPlain c then basic (c :: done) rest else none
termination_by text => text.length
decreasing_by all_goals simp only [List.length_cons, List.length_drop]; omega

def literal (done : List Char) : List Char → Option (String × List Char)
  | [] => none
  | '\x27' :: rest => some (String.ofList done.reverse, rest)
  | c :: rest => if isPlain c then literal (c :: done) rest else none

def run (c : Char) (text : List Char) : Nat := (text.takeWhile (· == c)).length

/-- A string over several lines, after its opening quotes. Three quotes close it, and up to two more before
them belong to it; an escaped end of line goes with all blank space after it. -/
def long (quote : Char) (escapes : Bool) (done : List Char) :
    List Char → Option (String × List Char)
  | [] => none
  | '\r' :: '\n' :: rest => long quote escapes ('\n' :: done) rest
  | c :: rest =>
    if c = quote then
      let n := run quote (c :: rest)
      if n < 3 then long quote escapes (c :: done) rest
      else
        let kept := min n 5 - 3
        some (String.ofList (List.replicate kept c ++ done).reverse, rest.drop (kept + 2))
    else if c = '\n' then long quote escapes (c :: done) rest
    else if c = '\\' ∧ escapes then
      match lineEnd? (skipBlanks rest) with
      | some _ => long quote escapes done (rest.drop (blankRun rest))
      | none =>
        match escape? rest with
        | some (d, taken) => long quote escapes (d :: done) (rest.drop taken)
        | none => none
    else if isPlain c then long quote escapes (c :: done) rest
    else none
termination_by text => text.length
decreasing_by all_goals simp only [List.length_cons, List.length_drop]; omega
where
  /-- The length of a run of blanks and ends of lines. -/
  blankRun : List Char → Nat
    | '\r' :: '\n' :: rest => blankRun rest + 2
    | c :: rest => if isBlank c ∨ c = '\n' then blankRun rest + 1 else 0
    | [] => 0

def longString (quote : Char) (escapes : Bool) (text : List Char) : Option (String × List Char) :=
  long quote escapes [] ((lineEnd? text).getD text)

def isBare (c : Char) : Bool := c.isAlphanum || c == '-' || c == '_'

def keyPart : List Char → Option (String × List Char)
  | '"' :: rest => basic [] rest
  | '\x27' :: rest => literal [] rest
  | text =>
    let bare := text.takeWhile isBare
    if bare.isEmpty then none else some (String.ofList bare, text.drop bare.length)

def key (steps : Nat) (way : List String) (text : List Char) :
    Option ((List String × String) × List Char) :=
  match steps with
  | 0 => none
  | steps + 1 => do
    let (part, rest) ← keyPart (skipBlanks text)
    match skipBlanks rest with
    | '.' :: rest => key steps (part :: way) rest
    | rest => some ((way.reverse, part), rest)

def maxParts : Nat := 79

def isWordChar (c : Char) : Bool := isBare c || c == '+' || c == '.' || c == ':'

/-- A word, together with a time that a blank separates from its date. -/
def word (text : List Char) : List Char :=
  let first := text.takeWhile isWordChar
  match text.drop first.length with
  | ' ' :: c :: rest =>
    if isDate first ∧ c.isDigit then first ++ ' ' :: (c :: rest).takeWhile isWordChar else first
  | _ => first

def skipLines (steps : Nat) (text : List Char) : List Char :=
  match steps with
  | 0 => text
  | steps + 1 =>
    let text := skipComment (skipBlanks text)
    match lineEnd? text with
    | some rest => skipLines steps rest
    | none => text

mutual

def value (steps depth : Nat) (text : List Char) : Option (Value × List Char) :=
  match steps, text with
  | _, '"' :: '"' :: '"' :: rest => (longString '"' true rest).map fun (s, rest) => (.text s, rest)
  | _, '"' :: rest => (basic [] rest).map fun (s, rest) => (.text s, rest)
  | _, '\x27' :: '\x27' :: '\x27' :: rest =>
    (longString '\x27' false rest).map fun (s, rest) => (.text s, rest)
  | _, '\x27' :: rest => (literal [] rest).map fun (s, rest) => (.text s, rest)
  | steps + 1, '[' :: rest =>
    match depth with
    | 0 => none
    | depth + 1 => items steps depth rest
  | steps + 1, '{' :: rest =>
    match depth with
    | 0 => none
    | depth + 1 =>
      match skipBlanks rest with
      | '}' :: rest => some (.other, rest)
      | rest => pairs steps depth [] rest
  | _, text =>
    let w := word text
    (scalar? w).map fun v => (v, text.drop w.length)

/-- The items of an array from one on; the last may have a comma after it. -/
def items (steps depth : Nat) (text : List Char) : Option (Value × List Char) :=
  match steps with
  | 0 => none
  | steps + 1 =>
    match skipLines steps text with
    | ']' :: rest => some (.other, rest)
    | text => do
      let (_, rest) ← value steps depth text
      match skipLines steps rest with
      | ']' :: rest => some (.other, rest)
      | ',' :: rest => items steps depth rest
      | _ => none

def pairs (steps depth : Nat) (done : Entries Node) (text : List Char) : Option (Value × List Char) :=
  match steps with
  | 0 => none
  | steps + 1 => do
    let ((way, last), v, rest) ← pair steps depth text
    let done ← setKey way last v .header done
    match skipBlanks rest with
    | '}' :: rest => some (.other, rest)
    | ',' :: rest => pairs steps depth done rest
    | _ => none

def pair (steps depth : Nat) (text : List Char) :
    Option ((List String × String) × Value × List Char) :=
  match steps with
  | 0 => none
  | steps + 1 => do
    let (name, rest) ← key maxParts [] text
    match rest with
    | '=' :: rest =>
      let (v, rest) ← value steps depth (skipBlanks rest)
      some (name, v, rest)
    | _ => none

end

def maxDepth : Nat := 79

def header (closing : List Char) (text : List Char) : Option ((List String × String) × List Char) := do
  let (name, rest) ← key maxParts [] text
  let rest ← Text.dropStart? closing rest
  some (name, rest)

/-- What a line does to a document, and what follows. A key belongs to the table of the header above it. -/
def statement (steps : Nat) (current : List String) (root : Entries Node) (text : List Char) :
    Option ((List String × Entries Node) × List Char) :=
  match text with
  | '[' :: '[' :: rest => do
    let ((way, last), rest) ← header [']', ']'] rest
    let root ← addTable way last .header root
    some ((way ++ [last], root), rest)
  | '[' :: rest => do
    let ((way, last), rest) ← header [']'] rest
    let root ← openTable way last .header root
    some ((way ++ [last], root), rest)
  | text => do
    let ((way, last), v, rest) ← pair steps maxDepth text
    let root ← changeAt .way (setKey way last v) current .header root
    some ((current, root), rest)

def lines (steps : Nat) (current : List String) (root : Entries Node) (text : List Char) :
    Option (Entries Node) :=
  match steps with
  | 0 => none
  | steps + 1 => do
    let text := skipBlanks text
    let blank := text.isEmpty || text.head? == some '#' || (lineEnd? text).isSome
    let ((current, root), rest) ←
      if blank then some ((current, root), text) else statement steps current root text
    let rest := skipComment (skipBlanks rest)
    match lineEnd? rest with
    | some rest => lines steps current root rest
    | none => if rest.isEmpty then some root else none

end Reader

/-- The entries of a whole document. A mark of byte order at its begin counts for nothing. -/
def read? (text : String) : Option (Entries Node) :=
  let cs := match text.toList with
    | '\ufeff' :: rest => rest
    | cs => cs
  Reader.lines (2 * cs.length + 4) [] [] cs

end PagedFind.Toml
