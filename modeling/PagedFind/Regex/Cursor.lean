import PagedFind.Text.Basic

namespace PagedFind.Regex

/-- What is left of a pattern, and whether blanks and comments in it count for nothing. -/
structure Cursor where
  rest : List Char
  spaced : Bool

namespace Cursor

def atEnd (c : Cursor) : Bool := c.rest.isEmpty

/-- The character here; past the end, a character that is of no meaning to a pattern. -/
def here (c : Cursor) : Char := c.rest.headD '\x00'

def isAt (c : Cursor) (ch : Char) : Bool := c.rest.head? == some ch

def startsWith (c : Cursor) (text : List Char) : Bool := text.isPrefixOf c.rest

def skip (c : Cursor) (n : Nat) : Cursor := { c with rest := c.rest.drop n }

def bump (c : Cursor) : Cursor := c.skip 1

def dropSpace (comment : Bool) : List Char → List Char
  | [] => []
  | ch :: rest =>
    if comment then dropSpace (ch != '\n') rest
    else if Text.isBlank ch then dropSpace false rest
    else if ch == '#' then dropSpace true rest
    else ch :: rest

def bumpSpace (c : Cursor) : Cursor :=
  if c.spaced then { c with rest := dropSpace false c.rest } else c

def advance (c : Cursor) : Cursor := c.bump.bumpSpace

/-- The next character that is no blank, one hash before it apart. -/
def peekFrom (comment : Bool) : List Char → Option Char
  | [] => none
  | ch :: rest =>
    if Text.isBlank ch then peekFrom comment rest
    else if !comment && ch == '#' then peekFrom true rest
    else some ch

def peekSpace (c : Cursor) : Option Char :=
  let after := c.rest.drop 1
  if c.spaced then peekFrom false after <|> after.head? else after.head?

def takeWhile (p : Char → Bool) (c : Cursor) : List Char × Cursor :=
  go c.rest.length c
where
  go : Nat → Cursor → List Char × Cursor
    | 0, c => ([], c)
    | steps + 1, c =>
      match c.rest with
      | [] => ([], c)
      | ch :: _ =>
        if p ch then
          let (chs, c') := go steps c.advance
          (ch :: chs, c')
        else ([], c)

end Cursor

end PagedFind.Regex
