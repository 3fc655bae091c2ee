import PagedFind.Text.Basic

namespace PagedFind.Text.Base64

def digit (n : Nat) : Char :=
  if n < 26 then Char.ofNat ('A'.toNat + n)
  else if n < 52 then Char.ofNat ('a'.toNat + (n - 26))
  else if n < 62 then Char.ofNat ('0'.toNat + (n - 52))
  else if n = 62 then '-'
  else '_'

def value? (c : Char) : Option Nat :=
  if 'A' ≤ c ∧ c ≤ 'Z' then some (c.toNat - 'A'.toNat)
  else if 'a' ≤ c ∧ c ≤ 'z' then some (c.toNat - 'a'.toNat + 26)
  else if '0' ≤ c ∧ c ≤ '9' then some (c.toNat - '0'.toNat + 52)
  else if c = '-' then some 62
  else if c = '_' then some 63
  else none

/-- Three bytes are four digits; one or two left over are two or three. -/
def encode : List Nat → List Char
  | [] => []
  | [a] => [digit (a / 4), digit (a % 4 * 16)]
  | [a, b] => [digit (a / 4), digit (a % 4 * 16 + b / 16), digit (b % 16 * 4)]
  | a :: b :: c :: rest =>
    digit (a / 4) :: digit (a % 4 * 16 + b / 16) :: digit (b % 16 * 4 + c / 64) :: digit (c % 64)
      :: encode rest

def decode : List Char → Option (List Nat)
  | [] => some []
  | [_] => none
  | [p, q] => do
    let x ← value? p
    let y ← value? q
    if y % 16 = 0 then some [x * 4 + y / 16] else none
  | [p, q, r] => do
    let x ← value? p
    let y ← value? q
    let z ← value? r
    if z % 4 = 0 then some [x * 4 + y / 16, y % 16 * 16 + z / 4] else none
  | p :: q :: r :: s :: rest => do
    let x ← value? p
    let y ← value? q
    let z ← value? r
    let w ← value? s
    let bytes ← decode rest
    some ((x * 4 + y / 16) :: (y % 16 * 16 + z / 4) :: (z % 4 * 64 + w) :: bytes)

end PagedFind.Text.Base64

namespace PagedFind.Bookmark

/-- What every bookmark begins with, before it is encoded. -/
def mark : List Char := ['g', '1', ':']

def encode (offset : Nat) : String :=
  String.ofList (Text.Base64.encode ((mark ++ Nat.toDigits 10 offset).map Char.toNat))

def decode? (bookmark : String) : Option Nat := do
  let bytes ← Text.Base64.decode bookmark.toList
  let digits ← Text.dropStart? mark (bytes.map Char.ofNat)
  Text.readCount? Text.maxWord digits

end PagedFind.Bookmark
