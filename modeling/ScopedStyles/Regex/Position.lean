/-! # Places in a pattern

Positions count characters, lines and columns; lines and columns start at 1.  A span runs from one
position up to another. -/

namespace ScopedStyles.Regex

/-- A place in a pattern. -/
structure Position where
  offset : Nat
  line : Nat
  column : Nat
deriving DecidableEq, Repr

namespace Position

def start : Position := ⟨0, 1, 1⟩

/-- The place after a character. -/
def after (p : Position) (c : Char) : Position :=
  if c = '\n' then ⟨p.offset + 1, p.line + 1, 1⟩ else ⟨p.offset + 1, p.line, p.column + 1⟩

end Position

structure Span where
  start : Position
  stop : Position
deriving DecidableEq, Repr

namespace Span

/-- The empty part at a place. -/
def point (p : Position) : Span := ⟨p, p⟩

def isOneLine (s : Span) : Bool := s.start.line = s.stop.line

/-- Whether a part comes before another: it begins earlier, or at the same place and ends earlier.
-/
def isBefore (s t : Span) : Bool :=
  s.start.offset < t.start.offset
    || (s.start.offset = t.start.offset && s.stop.offset < t.stop.offset)

end Span
end ScopedStyles.Regex
