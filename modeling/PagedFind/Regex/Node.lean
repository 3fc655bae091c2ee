import PagedFind.Regex.Tree
import PagedFind.Unicode.CaseFold

namespace PagedFind.Regex

/-- Places with their flags resolved; lines end at line feeds or, in the second kind, also at carriage
returns, and words are those of Unicode or of ASCII. -/
inductive Spot where
  | textStart
  | textEnd
  | lineStart (crlf : Bool)
  | lineEnd (crlf : Bool)
  | boundary (unicode : Bool)
  | noBoundary (unicode : Bool)
  | wordStart (unicode : Bool)
  | wordEnd (unicode : Bool)
  | wordStartHalf (unicode : Bool)
  | wordEndHalf (unicode : Bool)
deriving DecidableEq, Repr

inductive Node where
  | empty
  | set (s : CharSet)
  | spot (s : Spot)
  | repetition (min : Nat) (max : Option Nat) (lazy : Bool) (body : Node)
  | capture (body : Node)
  | concat (items : List Node)
  | alternate (items : List Node)
deriving Repr

structure Flags where
  ignoreCase : Bool
  multiLine : Bool
  dotAll : Bool
  crlf : Bool
  unicode : Bool
  swapGreed : Bool

namespace Flags

def start : Flags := ⟨false, false, false, false, true, false⟩

def set (flags : Flags) : Flag × Bool → Flags
  | (.ignoreCase, on) => { flags with ignoreCase := on }
  | (.multiLine, on) => { flags with multiLine := on }
  | (.dotAll, on) => { flags with dotAll := on }
  | (.crlf, on) => { flags with crlf := on }
  | (.unicode, on) => { flags with unicode := on }
  | (.swapGreed, on) => { flags with swapGreed := on }
  | (.spaced, _) => flags

def change (flags : Flags) (changes : FlagChanges) : Flags := changes.foldl set flags

end Flags

def foldAscii (s : CharSet) : CharSet :=
  let letters := (List.range 26).filter fun i => s.contains (65 + i) || s.contains (97 + i)
  s.union (CharSet.ofCodes (letters.flatMap fun i => [65 + i, 97 + i]))

namespace Flags

def fold (flags : Flags) (s : CharSet) : CharSet :=
  if !flags.ignoreCase then s
  else if flags.unicode then Unicode.foldCase s
  else foldAscii s

/-- Case is folded before a set is negated. Without Unicode a set beyond ASCII would match parts of
characters, and is refused. -/
def finish (flags : Flags) (negated : Bool) (s : CharSet) : Option CharSet :=
  let s := (flags.fold s).negateIf negated
  if flags.unicode || s.isAscii then some s else none

def member (flags : Flags) (l : Literal) : Option Nat :=
  if flags.unicode || l.char.toNat < 128 then some l.char.toNat else none

def literal (flags : Flags) (l : Literal) : Option CharSet :=
  let code := l.char.toNat
  if flags.unicode then some (flags.fold (CharSet.single code))
  else if 128 ≤ code then
    if l.asByte && code < 256 then none else some (CharSet.single code)
  else some (flags.fold (CharSet.single code))

def query (flags : Flags) (q : Unicode.ClassQuery) (negated : Bool) : Option CharSet :=
  if flags.unicode then q.resolve?.bind (flags.finish negated) else none

def asciiShorthand : Shorthand → CharSet
  | .digit => CharSet.range 48 57
  | .space => ⟨[(9, 13), (32, 32)]⟩
  | .word => ⟨[(48, 57), (65, 90), (95, 95), (97, 122)]⟩

def unicodeShorthand : Shorthand → CharSet
  | .digit => Unicode.digitChars
  | .space => Unicode.spaceChars
  | .word => Unicode.wordChars

/-- A shorthand class ignores the flag for case. -/
def shorthand (flags : Flags) (s : Shorthand) (negated : Bool) : Option CharSet :=
  let set := if flags.unicode then unicodeShorthand s else asciiShorthand s
  { flags with ignoreCase := false }.finish negated set

def op (flags : Flags) (kind : SetOp) (lhs rhs : CharSet) : CharSet :=
  let lhs := flags.fold lhs
  let rhs := flags.fold rhs
  match kind with
  | .inter => lhs.inter rhs
  | .diff => lhs.diff rhs
  | .symmDiff => lhs.symmDiff rhs

/-- What a dot matches: anything, or anything but the ends of lines. Without Unicode it would match
parts of characters. -/
def dot (flags : Flags) : Option CharSet :=
  if !flags.unicode then none
  else if flags.dotAll then some .all
  else if flags.crlf then some (CharSet.ofCodes [10, 13]).complement
  else some (CharSet.single 10).complement

def spot (flags : Flags) : Place → Spot
  | .textStart => .textStart
  | .textEnd => .textEnd
  | .lineStart => if flags.multiLine then .lineStart flags.crlf else .textStart
  | .lineEnd => if flags.multiLine then .lineEnd flags.crlf else .textEnd
  | .wordBoundary => .boundary flags.unicode
  | .notWordBoundary => .noBoundary flags.unicode
  | .wordStart => .wordStart flags.unicode
  | .wordEnd => .wordEnd flags.unicode
  | .wordStartHalf => .wordStartHalf flags.unicode
  | .wordEndHalf => .wordEndHalf flags.unicode

end Flags

mutual

def ClassTree.chars (flags : Flags) : ClassTree → Option CharSet
  | .literal l => (flags.member l).map CharSet.single
  | .range lo hi => do
    let a ← flags.member lo
    let b ← flags.member hi
    return CharSet.range a b
  | .ascii set negated => flags.finish negated set
  | .query q negated => flags.query q negated
  | .shorthand s negated => flags.shorthand s negated
  | .union items => (ClassTree.charsOf flags items).map CharSet.unionAll
  | .bracket negated body => (ClassTree.chars flags body).bind (flags.finish negated)
  | .op kind lhs rhs => do
    let a ← ClassTree.chars flags lhs
    let b ← ClassTree.chars flags rhs
    return flags.op kind a b

def ClassTree.charsOf (flags : Flags) : List ClassTree → Option (List CharSet)
  | [] => some []
  | x :: xs => do
    let s ← ClassTree.chars flags x
    let rest ← ClassTree.charsOf flags xs
    return s :: rest

end

mutual

/-- The meaning of a pattern under the flags in force, and the flags in force after it. -/
def Tree.node (flags : Flags) : Tree → Option (Node × Flags)
  | .empty => some (.empty, flags)
  | .flags changes => some (.empty, flags.change changes)
  | .literal l => (flags.literal l).map fun s => (.set s, flags)
  | .dot => flags.dot.map fun s => (.set s, flags)
  | .place p => some (.spot (flags.spot p), flags)
  | .query q negated => (flags.query q negated).map fun s => (.set s, flags)
  | .shorthand s negated => (flags.shorthand s negated).map fun s => (.set s, flags)
  | .bracket negated body =>
    ((body.chars flags).bind (flags.finish negated)).map fun s => (.set s, flags)
  | .repetition min max lazy body =>
    (Tree.node flags body).map fun (n, flags) => (.repetition min max (lazy != flags.swapGreed) n, flags)
  | .group captures changes body =>
    (Tree.node (flags.change changes) body).map fun (n, _) =>
      (if captures then .capture n else n, flags)
  | .concat items => (Tree.nodes flags items).map fun (ns, flags) => (.concat ns, flags)
  | .alternate items => (Tree.nodes flags items).map fun (ns, flags) => (.alternate ns, flags)

def Tree.nodes (flags : Flags) : List Tree → Option (List Node × Flags)
  | [] => some ([], flags)
  | x :: xs => do
    let (n, flags) ← Tree.node flags x
    let (ns, flags) ← Tree.nodes flags xs
    return (n :: ns, flags)

end

end PagedFind.Regex
