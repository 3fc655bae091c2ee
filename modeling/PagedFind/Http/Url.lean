import PagedFind.Text.Basic

namespace PagedFind.Http

structure Url where
  authority : List Char
  path : List (List Char)
  query : Option (List Char)
deriving DecidableEq, Repr

namespace Url

def scheme : List Char := "http://".toList

def isSlash (c : Char) : Bool := c == '/' || c == '\\'

/-- Controls and what lies beyond ASCII are encoded everywhere, and so is the blank. -/
def isAlwaysEncoded (c : Char) : Bool := c.toNat ≤ 0x20 || 0x7F ≤ c.toNat

def isEncodedInPath (c : Char) : Bool :=
  isAlwaysEncoded c || ['"', '#', '<', '>', '?', '\x60', '{', '}'].contains c

def isEncodedInQuery (c : Char) : Bool :=
  isAlwaysEncoded c || ['"', '#', '<', '>', '\x27'].contains c

def percent (byte : Nat) : List Char := '%' :: (Text.padded 16 2 byte).map Char.toUpper

def encode (isEncoded : Char → Bool) (text : List Char) : List Char :=
  text.flatMap fun c => if isEncoded c then (Text.utf8 c).flatMap percent else [c]

def dots : List Char → List Char
  | '%' :: '2' :: e :: rest =>
    if e = 'e' ∨ e = 'E' then '.' :: dots rest else '%' :: '2' :: e :: dots rest
  | c :: rest => c :: dots rest
  | [] => []

def isHere (segment : List Char) : Bool := dots segment == ['.']

def isUp (segment : List Char) : Bool := dots segment == ['.', '.']

/-- Resolves the dot segments; one at the end leaves an empty segment. The segments so far are held
backwards. -/
def resolve (done : List (List Char)) : List (List Char) → List (List Char)
  | [] => done.reverse
  | [last] =>
    (if isUp last then [] :: done.drop 1
      else if isHere last then [] :: done
      else last :: done).reverse
  | segment :: rest =>
    if isUp segment then resolve (done.drop 1) rest
    else if isHere segment then resolve done rest
    else resolve (segment :: done) rest

/-- The parts of a URL without its scheme. Tabs and line ends count for nothing, nor does a fragment. -/
def ofChars (text : List Char) : Url :=
  let text := text.filter fun c => c != '\t' && c != '\n' && c != '\r'
  let text := (text.dropWhile isSlash).takeWhile (· != '#')
  let authority := text.takeWhile fun c => !isSlash c && c != '?'
  let rest := text.drop authority.length
  let path := rest.takeWhile (· != '?')
  let segments := Text.split '/' ((path.drop 1).map fun c => if isSlash c then '/' else c)
  ⟨authority, resolve [] (segments.map (encode isEncodedInPath)),
    match rest.drop path.length with
    | _ :: query => some (encode isEncodedInQuery query)
    | [] => none⟩

def ofString? (url : String) : Option Url := (Text.dropStart? scheme url.toList).map ofChars

/-- What a request for a URL names: its path and query. -/
def target (url : Url) : List Char :=
  '/' :: Text.joinWith ['/'] url.path ++ match url.query with
    | some query => '?' :: query
    | none => []

end Url

end PagedFind.Http
