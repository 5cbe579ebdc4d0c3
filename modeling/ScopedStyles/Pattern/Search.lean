import ScopedStyles.Pattern.Expr

/-! # Matching

Whether a pattern spans some part of a text.  A set of positions of the text is a number whose bits
are the positions, from 0 up to the length of the text.  For a text every atom becomes a `Hop`, a
set of positions from which it goes on, and an expression carries a set of start positions to the
set of stop positions of its spans (`reach`). -/

namespace ScopedStyles.Pattern

/-- What an atom does on one text. -/
inductive Hop
  /-- Goes on by one symbol from the positions of a set. -/
  | step (starts : Nat)
  /-- Stays at the positions of a set. -/
  | stay (places : Nat)
deriving DecidableEq, Repr

/-- The positions before the symbols of a set. -/
def setMask (s : CodeSet) : List Nat → Nat
  | [] => 0
  | c :: rest => (s.contains c).toNat + 2 * setMask s rest

/-- The positions at which a condition holds; `before` is the symbol before the text. -/
def lookMask (l : Look) : Option Nat → List Nat → Nat
  | before, [] => (l.holds before none).toNat
  | before, c :: rest => (l.holds before (some c)).toNat + 2 * lookMask l (some c) rest

/-- An atom on a text. -/
def Atom.hop (text : List Nat) : Atom → Hop
  | set s => .step (setMask s text)
  | look l => .stay (lookMask l none text)

/-- Applies `f` exactly `n` times; stops early where nothing changes any more. -/
def iterate (f : Nat → Nat) : Nat → Nat → Nat
  | 0, p => p
  | n + 1, p =>
      let q := f p
      if q = p then p else iterate f n q

/-- Applies `f` at most `n` times and collects all positions on the way. -/
def gather (f : Nat → Nat) : Nat → Nat → Nat
  | 0, p => p
  | n + 1, p =>
      let q := p ||| f p
      if q = p then p else gather f n q

/-- The stop positions of spans that start in `p`.  No set of positions can grow more than `most`
times. -/
def reach (most : Nat) : Expr Hop → Nat → Nat
  | .empty, p => p
  | .atom (.step starts), p => 2 * (p &&& starts)
  | .atom (.stay places), p => p &&& places
  | .cat e f, p => reach most f (reach most e p)
  | .alt e f, p => reach most e p ||| reach most f p
  | .repeated lo hi e, p =>
      let rounds := match hi with
        | none => most
        | some hi => min (hi - lo) most
      gather (reach most e) rounds (iterate (reach most e) lo p)

/-- The stop positions of a pattern's spans that start in `p`. -/
def stops (e : Pattern) (text : List Nat) (p : Nat) : Nat :=
  reach (text.length + 1) (e.map (Atom.hop text)) p

/-- Whether the pattern spans the whole text. -/
def matchesWhole (e : Pattern) (text : List Nat) : Bool :=
  (stops e text 1).testBit text.length

/-- Whether the pattern spans some part of the text. -/
def matchesSomewhere (e : Pattern) (text : List Nat) : Bool :=
  stops e text ((1 <<< (text.length + 1)) - 1) ≠ 0

end ScopedStyles.Pattern
