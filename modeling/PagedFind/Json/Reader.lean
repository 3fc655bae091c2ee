import PagedFind.Json.Basic
import PagedFind.Number.Reading

namespace PagedFind.Json

/-- Why a text is no JSON: it ends too early, or it goes wrong before its end. -/
inductive ReadError where
  | truncated
  | malformed
deriving DecidableEq, Repr

namespace Reader

def isSpace (c : Char) : Bool := c == ' ' || c == '\n' || c == '\t' || c == '\r'

def skip (text : List Char) : List Char := text.dropWhile isSpace

def faultAt {α : Type} (text : List Char) : Except ReadError α :=
  .error (if text.isEmpty then .truncated else .malformed)

def word (value : Json) : List Char → List Char → Except ReadError (Json × List Char)
  | [], text => .ok (value, text)
  | _ :: _, [] => .error .truncated
  | w :: rest, c :: text => if w = c then word value rest text else .error .malformed

def hexFour (text : List Char) : Except ReadError Nat :=
  let four := text.take 4
  if four.length = 4 ∧ four.all (Text.isDigitIn 16) then .ok (Text.ofDigits 16 four)
  else if four.foldl (· + ·.utf8Size) 0 < 4 then .error .truncated
  else .error .malformed

def escaped? : Char → Option Char
  | '"' => some '"'
  | '\\' => some '\\'
  | '/' => some '/'
  | 'b' => some '\x08'
  | 'f' => some '\x0c'
  | 'n' => some '\n'
  | 'r' => some '\r'
  | 't' => some '\t'
  | _ => none

/-- The characters of a string up to its closing quote. A code point beyond sixteen bits may be
escaped as a pair of surrogates; a surrogate alone is refused. -/
def chars (done : List Char) : List Char → Except ReadError (String × List Char)
  | [] => .error .truncated
  | '"' :: rest => .ok (String.ofList done.reverse, rest)
  | '\\' :: 'u' :: rest =>
    match hexFour rest with
    | .error e => .error e
    | .ok high =>
      if 0xDC00 ≤ high ∧ high ≤ 0xDFFF then .error .malformed
      else if 0xD800 ≤ high ∧ high ≤ 0xDBFF then
        match rest.drop 4 with
        | [] => .error .truncated
        | ['\\'] => .error .truncated
        | '\\' :: 'u' :: _ =>
          match hexFour (rest.drop 6) with
          | .error e => .error e
          | .ok low =>
            if 0xDC00 ≤ low ∧ low ≤ 0xDFFF then
              let c := Char.ofNat (0x10000 + (high - 0xD800) * 0x400 + (low - 0xDC00))
              chars (c :: done) (rest.drop 10)
            else .error .malformed
        | _ => .error .malformed
      else chars (Char.ofNat high :: done) (rest.drop 4)
  | ['\\'] => .error .truncated
  | '\\' :: c :: rest =>
    match escaped? c with
    | some d => chars (d :: done) rest
    | none => .error .malformed
  | c :: rest => if c.toNat < 32 then .error .malformed else chars (c :: done) rest
termination_by text => text.length
decreasing_by all_goals simp only [List.length_cons, List.length_drop]; omega

def numeral (negative : Bool) (text : List Char) : Except ReadError (Number × List Char) :=
  let whole := text.takeWhile Char.isDigit
  let rest := text.dropWhile Char.isDigit
  if whole.isEmpty then faultAt rest
  else if whole.head? = some '0' ∧ whole.length ≠ 1 then .error .malformed
  else do
    let (fraction, rest) ← match rest with
      | '.' :: rest =>
        let digits := rest.takeWhile Char.isDigit
        if digits.isEmpty then faultAt rest
        else Except.ok (digits, rest.dropWhile Char.isDigit)
      | _ => Except.ok ([], rest)
    let (exponent, rest) ←
      if rest.head? = some 'e' ∨ rest.head? = some 'E' then
        let (down, rest) := match rest.drop 1 with
          | '+' :: rest => (false, rest)
          | '-' :: rest => (true, rest)
          | rest => (false, rest)
        let digits := rest.takeWhile Char.isDigit
        if digits.isEmpty then faultAt rest
        else Except.ok (some (down, digits), rest.dropWhile Char.isDigit)
      else Except.ok (none, rest)
    match Number.ofNumeral? ⟨negative, whole, fraction, exponent⟩ with
    | some n => .ok (n, rest)
    | none => .error .malformed

def numberValue (negative : Bool) (text : List Char) : Except ReadError (Json × List Char) :=
  (numeral negative text).map fun (n, rest) => (.number n, rest)

mutual

/-- A value at the start of a text without leading space, with at most `depth` containers in one
another; `steps` bounds the characters still to be read. -/
def value (steps depth : Nat) (text : List Char) : Except ReadError (Json × List Char) :=
  match steps, text with
  | 0, _ => .error .malformed
  | _, [] => .error .truncated
  | _, 'n' :: _ => word .null "null".toList text
  | _, 't' :: _ => word (.bool true) "true".toList text
  | _, 'f' :: _ => word (.bool false) "false".toList text
  | _, '"' :: rest => (chars [] rest).map fun (s, rest) => (.string s, rest)
  | _, '-' :: rest => numberValue true rest
  | steps + 1, '[' :: rest =>
    match depth with
    | 0 => .error .malformed
    | depth + 1 =>
      match skip rest with
      | ']' :: rest => .ok (.array [], rest)
      | rest => do
        let (v, rest) ← value steps depth rest
        items steps depth [v] (skip rest)
  | steps + 1, '{' :: rest =>
    match depth with
    | 0 => .error .malformed
    | depth + 1 =>
      match skip rest with
      | '}' :: rest => .ok (.object [], rest)
      | rest => do
        let ((k, v), rest) ← entry steps depth rest
        entries steps depth [(k, v)] (skip rest)
  | _, c :: _ => if c.isDigit then numberValue false text else .error .malformed

def items (steps depth : Nat) (done : List Json) (text : List Char) : Except ReadError (Json × List Char) :=
  match steps, text with
  | _, ']' :: rest => .ok (.array done.reverse, rest)
  | steps + 1, ',' :: rest => do
    let (v, rest) ← value steps depth (skip rest)
    items steps depth (v :: done) (skip rest)
  | _, text => faultAt text

/-- The entries of an object after the first; of entries with one key the last counts. -/
def entries (steps depth : Nat) (done : Entries Json) (text : List Char) : Except ReadError (Json × List Char) :=
  match steps, text with
  | _, '}' :: rest => .ok (.object done, rest)
  | steps + 1, ',' :: rest => do
    let ((k, v), rest) ← entry steps depth (skip rest)
    entries steps depth (done.put k v) (skip rest)
  | _, text => faultAt text

def entry (steps depth : Nat) (text : List Char) : Except ReadError ((String × Json) × List Char) :=
  match steps, text with
  | steps + 1, '"' :: rest => do
    let (k, rest) ← chars [] rest
    match skip rest with
    | ':' :: rest =>
      let (v, rest) ← value steps depth (skip rest)
      .ok ((k, v), rest)
    | rest => faultAt rest
  | _, text => faultAt text

end

end Reader

def readWithin (depth : Nat) (text : String) : Except ReadError Json := do
  let cs := text.toList
  let (v, rest) ← Reader.value (cs.length + 1) depth (Reader.skip cs)
  if (Reader.skip rest).isEmpty then .ok v else .error .malformed

/-- Reads a text from outside; deeper nesting than 127 containers is refused. -/
def read (text : String) : Except ReadError Json := readWithin 127 text

end PagedFind.Json
