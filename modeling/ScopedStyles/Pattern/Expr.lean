import ScopedStyles.CodeSet

/-! # Pattern expressions

The common form that globs and regular expressions are brought into.  Symbols are numbers: bytes for
globs, characters for regular expressions.  An expression is built over atoms; in a pattern as
written an atom is a set of symbols or a condition on the symbols next to a position (`Atom`). -/

namespace ScopedStyles
namespace Pattern

/-- An expression over atoms. -/
inductive Expr (α : Type) where
  /-- Spans nothing, anywhere. -/
  | empty
  | atom (a : α)
  | cat (e f : Expr α)
  | alt (e f : Expr α)
  /-- At least `lo` times, and at most `hi` times if that is given. -/
  | repeated (lo : Nat) (hi : Option Nat) (e : Expr α)
deriving Repr

namespace Expr

/-- Exchanges the atoms. -/
def map (f : α → β) : Expr α → Expr β
  | empty => empty
  | atom a => atom (f a)
  | cat d e => cat (d.map f) (e.map f)
  | alt d e => alt (d.map f) (e.map f)
  | repeated lo hi e => repeated lo hi (e.map f)

/-- Expressions one after another. -/
def cats : List (Expr α) → Expr α
  | [] => empty
  | [e] => e
  | e :: f :: rest => cat e (cats (f :: rest))

end Expr

/-! ### Conditions on a position -/

/-- Kinds of conditions that compare the symbols on the two sides with a set of word symbols. -/
inductive WordEdge
  /-- Exactly one side is in a word. -/
  | boundary
  /-- Both sides are, or neither is. -/
  | inside
  /-- Only the right side is. -/
  | start
  /-- Only the left side is. -/
  | stop
  /-- The left side is not. -/
  | halfStart
  /-- The right side is not. -/
  | halfStop
deriving DecidableEq, Repr

/-- A condition on a position of the text. -/
inductive Look
  | textStart
  | textStop
  | lineStart
  | lineStop
  /-- Lines end with a carriage return, a line feed or both. -/
  | lineStartCrlf
  | lineStopCrlf
  | edge (kind : WordEdge) (words : CodeSet)
deriving DecidableEq, Repr

def lineFeed : Nat := 10

def carriageReturn : Nat := 13

namespace Look

/-- Whether a condition holds between two symbols; a missing one is the end of the text. -/
def holds (l : Look) (before after : Option Nat) : Bool :=
  match l with
  | textStart => before.isNone
  | textStop => after.isNone
  | lineStart => before.isNone || before = some lineFeed
  | lineStop => after.isNone || after = some lineFeed
  | lineStartCrlf =>
      before.isNone || before = some lineFeed
        || (before = some carriageReturn && after ≠ some lineFeed)
  | lineStopCrlf =>
      after.isNone || after = some carriageReturn
        || (after = some lineFeed && before ≠ some carriageReturn)
  | edge kind words =>
      let left := before.any words.contains
      let right := after.any words.contains
      match kind with
      | .boundary => left != right
      | .inside => left == right
      | .start => !left && right
      | .stop => left && !right
      | .halfStart => !left
      | .halfStop => !right

end Look

/-- An atom of a pattern as written. -/
inductive Atom
  /-- One symbol of a set. -/
  | set (s : CodeSet)
  /-- No symbol, where a condition holds. -/
  | look (l : Look)
deriving DecidableEq, Repr

end Pattern

/-- An expression of a pattern as written. -/
abbrev Pattern := Pattern.Expr Pattern.Atom

end ScopedStyles
