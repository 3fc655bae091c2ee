import PagedFind.Json.Basic
import PagedFind.Number.Shortest

namespace PagedFind.Json

def hexDigit (n : Nat) : Char := Nat.digitChar n

/-- The written form of a character of a string: quotes, backslashes and control characters are
escaped, all else stands for itself. -/
def escapeChar (c : Char) : List Char :=
  match c with
  | '"' => ['\\', '"']
  | '\\' => ['\\', '\\']
  | '\x08' => ['\\', 'b']
  | '\x0c' => ['\\', 'f']
  | '\n' => ['\\', 'n']
  | '\r' => ['\\', 'r']
  | '\t' => ['\\', 't']
  | _ =>
    if c.toNat < 32 then
      ['\\', 'u', '0', '0', hexDigit (c.toNat / 16), hexDigit (c.toNat % 16)]
    else [c]

def quote (s : String) : List Char := '"' :: s.toList.flatMap escapeChar ++ ['"']

/-- Where line breaks and blanks go: nowhere in compact text, and one item a line, two blanks
deeper than its container, in indented text. -/
inductive Layout where
  | compact
  | indented
deriving DecidableEq, Repr

namespace Layout

def newline (layout : Layout) (depth : Nat) : List Char :=
  match layout with
  | .compact => []
  | .indented => '\n' :: List.replicate (2 * depth) ' '

def colon : Layout → List Char
  | .compact => [':']
  | .indented => [':', ' ']

end Layout

mutual

def write (layout : Layout) (depth : Nat) : Json → List Char
  | .null => "null".toList
  | .bool b => (if b then "true" else "false").toList
  | .number n => n.text
  | .string s => quote s
  | .array [] => ['[', ']']
  | .array (x :: xs) =>
    '[' :: layout.newline (depth + 1) ++ write layout (depth + 1) x ++
      writeItems layout (depth + 1) xs ++ layout.newline depth ++ [']']
  | .object [] => ['{', '}']
  | .object (e :: es) =>
    '{' :: layout.newline (depth + 1) ++ writeEntry layout (depth + 1) e ++
      writeEntries layout (depth + 1) es ++ layout.newline depth ++ ['}']

def writeItems (layout : Layout) (depth : Nat) : List Json → List Char
  | [] => []
  | x :: xs => ',' :: layout.newline depth ++ write layout depth x ++ writeItems layout depth xs

def writeEntries (layout : Layout) (depth : Nat) : List (String × Json) → List Char
  | [] => []
  | e :: es =>
    ',' :: layout.newline depth ++ writeEntry layout depth e ++ writeEntries layout depth es

def writeEntry (layout : Layout) (depth : Nat) : String × Json → List Char
  | (k, v) => quote k ++ layout.colon ++ write layout depth v

end

def text (v : Json) : String := String.ofList (write .compact 0 v)

def prettyText (v : Json) : String := String.ofList (write .indented 0 v)

end PagedFind.Json
