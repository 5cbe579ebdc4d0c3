import ScopedStyles.Regex.ClassReader

/-! # Reading regular expressions

`parse` reads a whole pattern: alternatives of sequences of items, items with repetitions, and
groups, which nest. -/

namespace ScopedStyles.Regex

open Reading

/-! ### Repetitions -/

/-- The item that a repetition applies to: the last one of a sequence, last one first. -/
def repeatable (nodes : List Node) : Reading (Node × List Node) := do
  match nodes with
  | [] | .empty _ :: _ | .flags .. :: _ => fail .repetitionMissing (← here)
  | n :: rest => return (n, rest)

/-- Repeats the last item of a sequence up to the cursor. -/
def repeated (n : Node) (rest : List Node) (lo : Nat) (hi : Option Nat) (isModest : Bool) :
    Reading (List Node) := do
  return .repetition ⟨n.span.start, ← position⟩ lo hi isModest n :: rest

/-- Steps over a question mark that makes a repetition modest; tells whether there was one. -/
def readModesty (isMore : Bool) : Reading Bool := do
  if isMore && (← peek?) = some '?' then
    let _ ← bump
    return true
  else return false

/-- Reads `?`, `*` or `+`. -/
def simpleRepetition (nodes : List Node) (lo : Nat) (hi : Option Nat) : Reading (List Node) := do
  let (n, rest) ← repeatable nodes
  let isModest ← readModesty (← bump)
  repeated n rest lo hi isModest

/-- The number of a count that has to be there. -/
def required : Count → Reading Nat
  | .value n => return n
  | .fault kind span => fail kind span

/-- Reads the bounds of a counted repetition that began at `start`, behind its brace. -/
def bounds (start : Position) : Reading (Nat × Option Nat) := do
  let unclosed : Reading Unit := do fail .countUnclosed ⟨start, ← position⟩
  let first ← readCount
  match ← peek? with
  | none =>
      unclosed
      return (0, none)
  | some ',' =>
      if !(← bumpAndSkip) then unclosed
      if (← peek?) = some '\x7d' then return (← required first, none)
      else
        let lo ← required first
        let hi ← required (← readCount)
        return (lo, some hi)
  | some _ =>
      let n ← required first
      return (n, some n)

/-- Reads a counted repetition at its brace. -/
def countedRepetition (nodes : List Node) : Reading (List Node) := do
  let start ← position
  let (n, rest) ← repeatable nodes
  if !(← bumpAndSkip) then fail .countUnclosed ⟨start, ← position⟩
  let (lo, hi) ← bounds start
  if (← peek?) ≠ some '\x7d' then fail .countUnclosed ⟨start, ← position⟩
  let isModest ← readModesty (← bumpAndSkip)
  if hi.any (· < lo) then fail .countReversed ⟨start, ← position⟩
  repeated n rest lo hi isModest

/-! ### Flags -/

def flag? (c : Char) : Option Flag :=
  match c with
  | 'i' => some .caseless
  | 'm' => some .multiLine
  | 's' => some .dotAll
  | 'U' => some .swapGreed
  | 'u' => some .unicode
  | 'R' => some .crlf
  | 'x' => some .freeSpacing
  | _ => none

/-- Flags read so far: the places of the flags, whether they are set, and the place of the hyphen.
-/
structure FlagState where
  seen : List (Flag × Span)
  flags : Flags
  hyphen : Option Span
  isDangling : Bool

/-- Takes one character of flags. -/
def FlagState.take (s : FlagState) (c : Char) : Reading FlagState := do
  let span ← nextSpan
  if c = '-' then
    match s.hyphen with
    | some earlier => failTwice .flagNegationRepeated span earlier
    | none => return { s with hyphen := some span, isDangling := true }
  else
    match flag? c with
    | none => fail .flagUnknown span
    | some f =>
        match s.seen.lookup f with
        | some earlier => failTwice .flagDuplicate span earlier
        | none =>
            return {
              s with
              seen := (f, span) :: s.seen
              flags := s.flags ++ [(f, s.hyphen.isNone)]
              isDangling := false }

/-- Reads flags up to a colon or a closing parenthesis. -/
def readFlags : Nat → FlagState → Reading FlagState
  | 0, s => return s
  | fuel + 1, s => do
      match ← peek? with
      | some c =>
          if c = ':' || c = ')' then
            match s.isDangling, s.hyphen with
            | true, some span => fail .flagNegationDangling span
            | _, _ => return s
          else
            let s ← s.take c
            if ← bump then readFlags fuel s else fail .flagIncomplete (← here)
      | none => return s

/-! ### Openings of groups -/

/-- Whether a character may be in the name of a group. -/
def isNameChar (isFirst : Bool) (c : Char) : Bool :=
  if c.toNat < 128 then
    c = '_' || c.isAlpha || (!isFirst && (c.isDigit || c = '.' || c = '[' || c = ']'))
  else if isFirst then Unicode.nameLetters.contains c.toNat
  else Unicode.nameCharacters.contains c.toNat

/-- Reads the characters of a name, last one first. -/
def nameChars : Nat → List Char → Reading (List Char)
  | 0, name => return name
  | fuel + 1, name => do
      match ← peek? with
      | some '>' => return name
      | some c =>
          if isNameChar name.isEmpty c then
            let _ ← bump
            nameChars fuel (c :: name)
          else fail .nameInvalid (← nextSpan)
      | none => return name

/-- Reads the name of a group up to and with its closing angle. -/
def groupName : Reading Unit := do
  let start ← position
  let name ← nameChars (← left) []
  let stop ← position
  if ← atEnd then fail .nameUnclosed (.point stop)
  let _ ← bump
  if name.isEmpty then fail .nameEmpty (.point start)
  let span : Span := ⟨start, stop⟩
  match (← get).names.lookup name with
  | some earlier => failTwice .nameDuplicate span earlier
  | none => modify fun c => { c with names := (name, span) :: c.names }

/-- What an opening parenthesis begins. -/
inductive Opening
  /-- Flags for the rest of the group around. -/
  | flags (flags : Flags)
  | group (kind : GroupKind)

/-- Reads what stands behind an opening parenthesis whose place is given. -/
def opening (paren : Span) : Reading Opening := do
  skipSpace
  let mark ← here
  if ← bumpAny [['?', '='], ['?', '!'], ['?', '<', '='], ['?', '<', '!']] then
    fail .lookaround ⟨paren.start, ← position⟩
  else if ← bumpAny [['?', 'P', '<'], ['?', '<']] then
    groupName
    return .group .capture
  else if ← bumpAny [['?']] then
    if ← atEnd then fail .groupUnclosed paren
    let s ← readFlags (← left) ⟨[], [], none, false⟩
    let isPlain := (← peek?) = some ':'
    let _ ← bump
    if isPlain then return .group (.plain s.flags)
    else if s.flags.isEmpty then fail .repetitionMissing mark
    else return .flags s.flags
  else return .group .capture

/-! ### Sequences and alternatives -/

/-- Alternatives read so far: the place of the first one, the finished ones, last one first, the
place where the current one began, and its nodes, last one first. -/
structure Alternatives where
  start : Position
  finished : List Node
  begun : Position
  nodes : List Node

namespace Alternatives

/-- Nothing read yet, from a place on. -/
def fresh (p : Position) : Alternatives := ⟨p, [], p, []⟩

/-- The current alternative, which ends at a place. -/
def current (a : Alternatives) (stop : Position) : Node := .sequence ⟨a.begun, stop⟩ a.nodes.reverse

/-- Goes on to the next alternative, which begins behind the bar. -/
def next (a : Alternatives) (stop begun : Position) : Alternatives :=
  { a with finished := a.current stop :: a.finished, begun, nodes := [] }

/-- All alternatives as one node. -/
def node (a : Alternatives) (stop : Position) : Node :=
  match a.finished with
  | [] => a.current stop
  | finished => .alternation ⟨a.start, stop⟩ (a.current stop :: finished).reverse

end Alternatives

/-- The free-spacing flag that a group sets for itself. -/
def GroupKind.freeSpacing? : GroupKind → Option Bool
  | capture => none
  | plain flags => flags.lookup .freeSpacing

/-- Sets the free-spacing flag of the rest of the pattern. -/
def setFreeSpacing (b : Option Bool) : Reading Unit :=
  match b with
  | some b => modify fun c => { c with freeSpacing := b }
  | none => return

/-- Reads alternatives up to a closing parenthesis or the end of the pattern. -/
def readAlternatives : Nat → Alternatives → Reading Alternatives
  | 0, a => return a
  | fuel + 1, a => do
      skipSpace
      match ← peek? with
      | none => return a
      | some ')' => return a
      | some '|' =>
          let stop ← position
          let _ ← bump
          readAlternatives fuel (a.next stop (← position))
      | some '(' =>
          let paren ← nextSpan
          let outer := (← get).freeSpacing
          let _ ← bump
          match ← opening paren with
          | .flags flags =>
              setFreeSpacing (flags.lookup .freeSpacing)
              let n : Node := .flags ⟨paren.start, ← position⟩ flags
              readAlternatives fuel { a with nodes := n :: a.nodes }
          | .group kind =>
              setFreeSpacing kind.freeSpacing?
              let inner ← readAlternatives fuel (.fresh (← position))
              if ← atEnd then fail .groupUnclosed paren
              setFreeSpacing (some outer)
              let sub := inner.node (← position)
              let _ ← bump
              let n : Node := .group ⟨paren.start, ← position⟩ kind sub
              readAlternatives fuel { a with nodes := n :: a.nodes }
      | some '[' =>
          match ← bracketedClass with
          | .bracketed span negated body =>
              readAlternatives fuel { a with nodes := .bracketed span negated body :: a.nodes }
          | n => fail .classUnclosed n.span
      | some '?' =>
          readAlternatives fuel { a with nodes := ← simpleRepetition a.nodes 0 (some 1) }
      | some '*' => readAlternatives fuel { a with nodes := ← simpleRepetition a.nodes 0 none }
      | some '+' => readAlternatives fuel { a with nodes := ← simpleRepetition a.nodes 1 none }
      | some '\x7b' => readAlternatives fuel { a with nodes := ← countedRepetition a.nodes }
      | some c => readAlternatives fuel { a with nodes := (← single c) :: a.nodes }

def readPattern : Reading Node := do
  let a ← readAlternatives ((← left) + 1) (.fresh (← position))
  if ← atEnd then return a.node (← position)
  else fail .groupUnopened (← nextSpan)

def parse (pattern : List Char) : Except Fault Node := do
  let (node, _) ← readPattern.run ⟨.start, pattern, false, []⟩
  node.checkNesting 0
  return node

end ScopedStyles.Regex
