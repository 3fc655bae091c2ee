import PagedFind.Unicode.Age
import PagedFind.Unicode.Category
import PagedFind.Unicode.Property
import PagedFind.Unicode.Script
import PagedFind.Unicode.Segment

namespace PagedFind.Unicode

/-- A name as it is compared: in small letters, without blanks, underscores, hyphens and characters
beyond ASCII, and without a leading `is`, except that `isc` stays itself. -/
def loose (name : String) : String :=
  let cs := name.toList
  let starts := (cs.take 2).map Char.toLower = ['i', 's']
  let kept := (if starts then cs.drop 2 else cs).filter fun c =>
    c.toNat < 128 && c != ' ' && c != '_' && c != '-'
  let lower := kept.map Char.toLower
  if starts ∧ lower = ['c'] then "isc" else String.ofList lower

def categories (names : List String) : CharSet :=
  CharSet.unionAll (names.filterMap category.find?)

def unassigned : CharSet :=
  (CharSet.unionAll (category.map fun row => unpackSet row.2)).complement.diff
    (CharSet.range 0xD800 0xDFFF)

def generalCategory? (name : String) : Option CharSet :=
  match name with
  | "any" => some CharSet.all
  | "assigned" => some unassigned.complement
  | "ascii" => some (CharSet.range 0 127)
  | "lc" | "casedletter" => some (categories ["lu", "ll", "lt"])
  | "l" | "letter" => some (categories ["lu", "ll", "lt", "lm", "lo"])
  | "m" | "mark" | "combiningmark" => some (categories ["mn", "mc", "me"])
  | "n" | "number" => some (categories ["nd", "nl", "no"])
  | "p" | "punct" | "punctuation" => some (categories ["pc", "pd", "ps", "pe", "pi", "pf", "po"])
  | "s" | "symbol" => some (categories ["sm", "sc", "sk", "so"])
  | "z" | "separator" => some (categories ["zs", "zl", "zp"])
  | "c" | "other" => some ((categories ["cc", "cf", "co"]).union unassigned)
  | "cn" | "unassigned" => some unassigned
  | _ => category.find? name

/-- The characters of a version of the standard: those it brought and all earlier ones. -/
def ageUpTo? (name : String) : Option CharSet :=
  let later := age.dropWhile fun row => !row.1.contains name
  if later.isEmpty then none
  else
    let rows := age.take (age.length - later.length + 1)
    some (CharSet.unionAll (rows.map fun row => unpackSet row.2))

inductive ClassQuery where
  | named (name : String)
  | valued (property value : String)
deriving DecidableEq, Repr

namespace ClassQuery

/-- A single name is looked for among the binary properties, then the general categories, then
the scripts. Three short names of categories are those of other properties as well; they mean the
category. -/
def resolve? : ClassQuery → Option CharSet
  | .named name =>
    let n := loose name
    let asProperty := if n = "cf" ∨ n = "sc" ∨ n = "lc" then none else Unicode.property.find? n
    asProperty <|> generalCategory? n <|> script.find? n
  | .valued property value =>
    let v := loose value
    match loose property with
    | "gc" | "generalcategory" => generalCategory? v
    | "sc" | "script" => script.find? v
    | "scx" | "scriptextensions" => scriptExtension.find? v
    | "age" => ageUpTo? v
    | "gcb" | "graphemeclusterbreak" => grapheme.find? v
    | "sb" | "sentencebreak" => sentence.find? v
    | "wb" | "wordbreak" => word.find? v
    | _ => none

end ClassQuery

def propertySet (name : String) : CharSet := (property.find? name).getD .empty

def alphabeticChars : CharSet := propertySet "alphabetic"

def numericChars : CharSet := categories ["nd", "nl", "no"]

def digitChars : CharSet := categories ["nd"]

def spaceChars : CharSet := propertySet "whitespace"

/-- Letters, marks, decimal digits, connecting punctuation and the two joiners. -/
def wordChars : CharSet :=
  CharSet.unionAll
    [alphabeticChars, categories ["mn", "mc", "me", "nd", "pc"], propertySet "joincontrol"]

end PagedFind.Unicode
