import PagedFind.Unicode.Query

namespace PagedFind.Text

/-- The bytes of a character: one below 128, else a first one that tells their number and six bits in each of
the others. -/
def utf8 (c : Char) : List Nat :=
  let n := c.toNat
  let more (k : Nat) : Nat := 0x80 + n / Nat.pow 64 k % 64
  if n < 0x80 then [n]
  else if n < 0x800 then [0xC0 + n / 64, more 0]
  else if n < 0x10000 then [0xE0 + n / Nat.pow 64 2, more 1, more 0]
  else [0xF0 + n / Nat.pow 64 3, more 2, more 1, more 0]

/-- The characters of the property White_Space. -/
def isBlank (c : Char) : Bool :=
  let n := c.toNat
  (9 ≤ n && n ≤ 13) || n == 0x20 || n == 0x85 || n == 0xA0 || n == 0x1680 ||
    (0x2000 ≤ n && n ≤ 0x200A) || n == 0x2028 || n == 0x2029 || n == 0x202F || n == 0x205F ||
    n == 0x3000

/-- A text without the characters of a class at its ends. -/
def trimClass (p : Char → Bool) (text : List Char) : List Char :=
  ((text.dropWhile p).reverse.dropWhile p).reverse

def trim (text : String) : String := String.ofList (trimClass isBlank text.toList)

/-- The value of a character as a digit, letters of either case following the ten digits. -/
def digitValue (c : Char) : Nat :=
  if '0' ≤ c ∧ c ≤ '9' then c.toNat - '0'.toNat
  else if 'a' ≤ c ∧ c ≤ 'z' then c.toNat - 'a'.toNat + 10
  else if 'A' ≤ c ∧ c ≤ 'Z' then c.toNat - 'A'.toNat + 10
  else 36

def isDigitIn (base : Nat) (c : Char) : Bool := digitValue c < base

def ofDigits (base : Nat) (digits : List Char) : Nat :=
  digits.foldl (fun n c => base * n + digitValue c) 0

/-- A whole number at most `max`: at least one decimal digit, perhaps after a plus sign. -/
def readCount? (max : Nat) (text : List Char) : Option Nat :=
  let digits := match text with
    | '+' :: rest => rest
    | _ => text
  if digits.isEmpty || !digits.all Char.isDigit then none
  else
    let n := ofDigits 10 digits
    if n ≤ max then some n else none

def padded (base width n : Nat) : List Char :=
  let digits := Nat.toDigits base n
  List.replicate (width - digits.length) '0' ++ digits

def maxWord : Nat := Nat.pow 2 64 - 1

/-- The parts of a text between separators, one more than there are separators. -/
def split (sep : Char) : List Char → List (List Char)
  | [] => [[]]
  | c :: rest =>
    if c = sep then [] :: split sep rest
    else match split sep rest with
      | [] => [[c]]
      | part :: parts => (c :: part) :: parts

def cutFirst (sep : Char) : List Char → Option (List Char × List Char)
  | [] => none
  | c :: rest =>
    if c = sep then some ([], rest)
    else (cutFirst sep rest).map fun (before, after) => (c :: before, after)

def cutLast (sep : Char) : List Char → Option (List Char × List Char)
  | [] => none
  | c :: rest =>
    match cutLast sep rest with
    | some (before, after) => some (c :: before, after)
    | none => if c = sep then some ([], rest) else none

def dropStart? : List Char → List Char → Option (List Char)
  | [], text => some text
  | _ :: _, [] => none
  | p :: start, c :: text => if p = c then dropStart? start text else none

def joinWith (sep : List Char) : List (List Char) → List Char
  | [] => []
  | [part] => part
  | part :: parts => part ++ sep ++ joinWith sep parts

def compare (a b : String) : Ordering := compareOfLessAndEq a b

def splitOn (sep : Char) (text : String) : List String :=
  (split sep text.toList).map String.ofList

def join (sep : String) (parts : List String) : String :=
  String.ofList (joinWith sep.toList (parts.map String.toList))

/-- The characters that do not show on their own: those that extend the one before, controls, formats,
private and unassigned ones, and all separators but the blank. -/
def hiddenChars : CharSet :=
  CharSet.unionAll
    [Unicode.propertySet "graphemeextend", Unicode.categories ["cc", "cf", "co", "zl", "zp"],
      (Unicode.categories ["zs"]).diff (CharSet.single 0x20), Unicode.unassigned]

def quotedChar (c : Char) : List Char :=
  match c with
  | '\x00' => ['\\', '0']
  | '\t' => ['\\', 't']
  | '\r' => ['\\', 'r']
  | '\n' => ['\\', 'n']
  | '"' => ['\\', '"']
  | '\\' => ['\\', '\\']
  | _ =>
    if hiddenChars.contains c.toNat then
      ['\\', 'u', '{'] ++ Nat.toDigits 16 c.toNat ++ ['}']
    else [c]

def quoted (text : String) : String :=
  String.ofList ('"' :: text.toList.flatMap quotedChar ++ ['"'])

/-- Quoted texts in brackets. -/
def quotedList (texts : List String) : String := "[" ++ join ", " (texts.map quoted) ++ "]"

end PagedFind.Text
