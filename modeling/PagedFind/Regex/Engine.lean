namespace PagedFind.Regex

/-- Why a text is no pattern. The last case covers what this dialect lacks or writes otherwise and
another dialect may still accept. -/
inductive Fault where
  | groupUnclosed
  | groupUnopened
  | classUnclosed
  | rangeInvalid
  | countInvalid
  | countUnclosed
  | operandMissing
  | escapeUnfinished
  | unsupported
deriving DecidableEq, Repr

def Fault.reason? : Fault → Option String
  | .groupUnclosed => some "unclosed group"
  | .groupUnopened => some "unopened group"
  | .classUnclosed => some "unclosed character class"
  | .rangeInvalid => some "invalid character class range, the start must be <= the end"
  | .countInvalid => some "invalid repetition count range, the start must be <= the end"
  | .countUnclosed => some "unclosed counted repetition"
  | .operandMissing => some "repetition operator missing expression"
  | .escapeUnfinished => some "incomplete escape sequence, reached end of pattern prematurely"
  | .unsupported => none

/-- Why an engine does not take a text as a pattern. -/
inductive Refusal where
  | invalid
  | tooBig
deriving DecidableEq, Repr

/-- An engine for regular expressions: the first fault of a text in their syntax, and the search of texts for a
pattern that it takes. -/
class Engine where
  fault? : String → Option Fault
  search : String → Except Refusal (String → Bool)

end PagedFind.Regex

namespace PagedFind

inductive PatternError where
  | tooLong
  | refused (cause : Regex.Refusal)
deriving DecidableEq, Repr

namespace Pattern

def maxLength : Nat := 1000

def tooLongMessage : String := "Pattern too long (max 1000 chars)"

variable [Regex.Engine]

def compile (pattern : String) : Except PatternError (String → Bool) :=
  if maxLength < pattern.utf8ByteSize then .error .tooLong
  else (Regex.Engine.search pattern).mapError .refused

def finds (pattern text : String) : Bool :=
  match compile pattern with
  | .ok search => search text
  | .error _ => false

/-- What is wrong with a text as a pattern of any dialect. -/
def defect? (pattern : String) : Option String :=
  (Regex.Engine.fault? pattern).bind Regex.Fault.reason?

end Pattern

end PagedFind
