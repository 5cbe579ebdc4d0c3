import ScopedStyles.Regex.Syntax
import ScopedStyles.Unicode.Property

/-! # Reading a pattern character by character

A `Cursor` stands between two characters of a pattern.  Under the free-spacing flag blanks and
comments may be skipped where a reader says so. -/

namespace ScopedStyles.Regex

/-- Whether a character is white space. -/
def isBlank (c : Char) : Bool :=
  if c.toNat < 128 then c = ' ' || (9 ≤ c.toNat && c.toNat ≤ 13)
  else Unicode.whiteSpace.contains c.toNat

/-- A place in a pattern with what follows it. -/
structure Cursor where
  pos : Position
  rest : List Char
  freeSpacing : Bool
  /-- The names of groups so far, with their places. -/
  names : List (List Char × Span)

/-- A reader: it moves the cursor or finds a fault. -/
abbrev Reading := StateT Cursor (Except Fault)

namespace Reading

def fail (kind : FaultKind) (span : Span) : Reading α := throw ⟨kind, span, none⟩

/-- Stops with a fault that an earlier place has to do with. -/
def failTwice (kind : FaultKind) (span earlier : Span) : Reading α :=
  throw ⟨kind, span, some earlier⟩

def position : Reading Position := return (← get).pos

def peek? : Reading (Option Char) := return (← get).rest.head?

def second? : Reading (Option Char) := return ((← get).rest.drop 1).head?

def atEnd : Reading Bool := return (← get).rest.isEmpty

/-- The empty part at the cursor. -/
def here : Reading Span := return .point (← position)

/-- The part of the next character. -/
def nextSpan : Reading Span := do
  let c ← get
  match c.rest with
  | [] => return .point c.pos
  | d :: _ => return ⟨c.pos, c.pos.after d⟩

/-- Steps over the next character; tells whether there is another one. -/
def bump : Reading Bool := do
  let c ← get
  match c.rest with
  | [] => return false
  | d :: rest =>
      set { c with pos := c.pos.after d, rest }
      return !rest.isEmpty

/-- Steps over a text if it comes next. -/
def bumpIf (text : List Char) : Reading Bool := do
  let c ← get
  if text.isPrefixOf c.rest then
    set { c with pos := text.foldl Position.after c.pos, rest := c.rest.drop text.length }
    return true
  else return false

/-- Steps over the first of some texts that comes next. -/
def bumpAny : List (List Char) → Reading Bool
  | [] => return false
  | text :: texts => do if ← bumpIf text then return true else bumpAny texts

/-- The place and the text after blanks and comments. -/
def skipped (inComment : Bool) (pos : Position) : List Char → Position × List Char
  | [] => (pos, [])
  | c :: rest =>
      if inComment then skipped (c ≠ '\n') (pos.after c) rest
      else if isBlank c then skipped false (pos.after c) rest
      else if c = '#' then skipped true (pos.after c) rest
      else (pos, c :: rest)

/-- Skips blanks and comments if the pattern is free-spacing. -/
def skipSpace : Reading Unit := do
  let c ← get
  if c.freeSpacing then
    let (pos, rest) := skipped false c.pos c.rest
    set { c with pos, rest }

/-- Steps over the next character and what may be skipped after it; tells whether there is more. -/
def bumpAndSkip : Reading Bool := do
  if ← bump then
    skipSpace
    return !(← atEnd)
  else return false

/-- The first character of a text that is no blank; a number sign is passed over once until a line
feed. -/
def firstSolid? (inComment : Bool) : List Char → Option Char
  | [] => none
  | c :: rest =>
      if isBlank c then firstSolid? inComment rest
      else if ¬ inComment ∧ c = '#' then firstSolid? true rest
      else if inComment ∧ c = '\n' then firstSolid? false rest
      else some c

/-- The character after the next one, blanks left out if the pattern is free-spacing. -/
def secondSolid? : Reading (Option Char) := do
  let c ← get
  let rest := c.rest.drop 1
  if c.freeSpacing then return (firstSolid? false rest).or rest.head?
  else return rest.head?

end Reading
end ScopedStyles.Regex
