import PagedFind.Number.Double
import PagedFind.Text.Basic
import PagedFind.Toml.Document

namespace PagedFind.Toml

/-- Digits in groups that single underscores separate. -/
def grouped? (isDigit : Char → Bool) (word : List Char) : Option (List Char) :=
  let groups := Text.split '_' word
  if groups.all fun g => !g.isEmpty && g.all isDigit then some groups.flatten else none

def signed : List Char → Bool × List Char
  | '+' :: rest => (false, rest)
  | '-' :: rest => (true, rest)
  | word => (false, word)

def whole? (word : List Char) : Option (List Char) :=
  (grouped? Char.isDigit word).filter fun digits => digits.length = 1 || digits.head? != some '0'

/-- An integer of sixty-four bits, decimal or, without a sign, in another base. -/
def integer? (word : List Char) : Option Int :=
  let number? (base : Nat) (digits : List Char) : Option Int :=
    (grouped? (Text.isDigitIn base) digits).map fun digits => (Text.ofDigits base digits : Int)
  let n? := match word with
    | '0' :: 'x' :: digits => number? 16 digits
    | '0' :: 'o' :: digits => number? 8 digits
    | '0' :: 'b' :: digits => number? 2 digits
    | _ =>
      let (negative, digits) := signed word
      (whole? digits).map fun digits =>
        let n : Int := Text.ofDigits 10 digits
        if negative then -n else n
  n?.filter fun n => -Int.pow 2 63 ≤ n ∧ n < Int.pow 2 63

/-- Whether a decimal number, a power of ten apart, is beyond all finite doubles. -/
def isTooBig (digits : List Char) (exponent : Int) : Bool :=
  let n := Text.ofDigits 10 digits
  let lead : Int := (Nat.toDigits 10 n).length + exponent
  if n = 0 ∨ lead < 300 then false
  else if 320 < lead then true
  else
    (Double.ofRatio? false (n * Nat.pow 10 exponent.toNat * unitsPerOne) (Nat.pow 10 (-exponent).toNat)).isNone

/-- A number with a fraction or an exponent, an infinity or no number. A positive one has to be finite. -/
def isFloat (word : List Char) : Bool :=
  let (negative, unsigned) := signed word
  if unsigned = "inf".toList ∨ unsigned = "nan".toList then true
  else
    let isMark (c : Char) : Bool := c == 'e' || c == 'E'
    let mantissa := unsigned.takeWhile fun c => !isMark c
    let exponent := (unsigned.drop mantissa.length).drop 1
    let hasExponent := unsigned.any isMark
    let (down, power) := signed exponent
    let power? := if hasExponent then grouped? Char.isDigit power else some []
    let parts? := match Text.cutFirst '.' mantissa with
      | some (front, back) =>
        match whole? front, grouped? Char.isDigit back with
        | some front, some back => some (front, back)
        | _, _ => none
      | none => if hasExponent then (whole? mantissa).map fun front => (front, []) else none
    match parts?, power? with
    | some (front, back), some power =>
      let e : Int := Text.ofDigits 10 power
      negative || !isTooBig (front ++ back) ((if down then -e else e) - back.length)
    | _, _ => false

def isCount (digits low high : Nat) (word : List Char) : Bool :=
  word.length = digits && word.all Char.isDigit &&
    low ≤ Text.ofDigits 10 word && Text.ofDigits 10 word ≤ high

def daysIn (year month : Nat) : Nat :=
  if month = 2 then
    if year % 4 = 0 ∧ (year % 100 ≠ 0 ∨ year % 400 = 0) then 29 else 28
  else if [4, 6, 9, 11].contains month then 30
  else 31

def isDate (word : List Char) : Bool :=
  match Text.split '-' word with
  | [year, month, day] =>
    isCount 4 0 9999 year && isCount 2 1 12 month &&
      isCount 2 1 (daysIn (Text.ofDigits 10 year) (Text.ofDigits 10 month)) day
  | _ => false

/-- A time of day; a minute may have a leap second. -/
def isTime (word : List Char) : Bool :=
  match Text.split ':' word with
  | [hour, minute, second] =>
    let fraction := second.drop 2
    isCount 2 0 23 hour && isCount 2 0 59 minute && isCount 2 0 60 (second.take 2) &&
      (fraction.isEmpty ||
        fraction.head? == some '.' && 1 < fraction.length && (fraction.drop 1).all Char.isDigit)
  | _ => false

def isOffset (word : List Char) : Bool :=
  match word with
  | ['Z'] | ['z'] => true
  | sign :: rest =>
    (sign == '+' || sign == '-') &&
      match Text.split ':' rest with
      | [hour, minute] => isCount 2 0 23 hour && isCount 2 0 59 minute
      | _ => false
  | [] => false

def isZonedTime (word : List Char) : Bool :=
  let time := word.takeWhile fun c => c.isDigit || c == ':' || c == '.'
  let zone := word.drop time.length
  isTime time && (zone.isEmpty || isOffset zone)

def isMoment (word : List Char) : Bool :=
  let date := word.take 10
  let rest := word.drop 10
  isTime word || isDate date &&
    match rest with
    | [] => true
    | mark :: time => (mark == 'T' || mark == 't' || mark == ' ') && isZonedTime time

def scalar? (word : List Char) : Option Value :=
  if word = "true".toList then some (.flag true)
  else if word = "false".toList then some (.flag false)
  else match integer? word with
    | some n => some (.integer n)
    | none => if isFloat word || isMoment word then some .other else none

end PagedFind.Toml
