import PagedFind.Regex.Engine
import PagedFind.Unicode.Query

namespace PagedFind.Regex

open Unicode (ClassQuery)

inductive Flag where
  | ignoreCase
  | multiLine
  | dotAll
  | swapGreed
  | unicode
  | crlf
  | spaced
deriving DecidableEq, Repr

/-- Flags set to on or off, each at most once. -/
abbrev FlagChanges := List (Flag × Bool)

/-- A character that stands for itself; one written as two hexadecimal digits is a byte where
Unicode is off. -/
structure Literal where
  char : Char
  asByte : Bool
deriving DecidableEq, Repr

inductive Place where
  | lineStart
  | lineEnd
  | textStart
  | textEnd
  | wordBoundary
  | notWordBoundary
  | wordStart
  | wordEnd
  | wordStartHalf
  | wordEndHalf
deriving DecidableEq, Repr

inductive Shorthand where
  | digit
  | space
  | word
deriving DecidableEq, Repr

inductive SetOp where
  | inter
  | diff
  | symmDiff
deriving DecidableEq, Repr

inductive ClassTree where
  | literal (l : Literal)
  | range (lo hi : Literal)
  | ascii (set : CharSet) (negated : Bool)
  | query (q : ClassQuery) (negated : Bool)
  | shorthand (s : Shorthand) (negated : Bool)
  | union (items : List ClassTree)
  | bracket (negated : Bool) (body : ClassTree)
  | op (kind : SetOp) (lhs rhs : ClassTree)
deriving Repr

inductive Tree where
  | empty
  | flags (changes : FlagChanges)
  | literal (l : Literal)
  | dot
  | place (p : Place)
  | query (q : ClassQuery) (negated : Bool)
  | shorthand (s : Shorthand) (negated : Bool)
  | bracket (negated : Bool) (body : ClassTree)
  | repetition (min : Nat) (max : Option Nat) (lazy : Bool) (body : Tree)
  | group (captures : Bool) (changes : FlagChanges) (body : Tree)
  | concat (items : List Tree)
  | alternate (items : List Tree)
deriving Repr

def ClassTree.ofItems : List ClassTree → ClassTree
  | [item] => item
  | items => .union items

def Tree.ofItems : List Tree → Tree
  | [] => .empty
  | [item] => item
  | items => .concat items

mutual

def ClassTree.depth : ClassTree → Nat
  | .union [] => 0
  | .union (x :: xs) => max x.depth (ClassTree.depthOf xs) + 1
  | .bracket _ body => body.depth + 1
  | .op _ lhs rhs => max lhs.depth rhs.depth + 1
  | _ => 0

def ClassTree.depthOf : List ClassTree → Nat
  | [] => 0
  | x :: xs => max x.depth (ClassTree.depthOf xs)

end

mutual

def Tree.depth : Tree → Nat
  | .bracket _ body => body.depth + 1
  | .repetition _ _ _ body => body.depth + 1
  | .group _ _ body => body.depth + 1
  | .concat items => Tree.depthOf items + 1
  | .alternate items => Tree.depthOf items + 1
  | _ => 0

def Tree.depthOf : List Tree → Nat
  | [] => 0
  | x :: xs => max x.depth (Tree.depthOf xs)

end

end PagedFind.Regex
