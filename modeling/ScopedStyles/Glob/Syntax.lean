/-! # Globs as written

The parts of a glob and how a text is read into them.  A glob is read character by character; what a
run of stars means depends on its neighbours and on the part before it. -/

namespace ScopedStyles.Glob

inductive Part where
  | literal (c : Char)
  /-- Any one byte. -/
  | any
  /-- Any bytes. -/
  | star
  /-- Nothing or any directories, at the start. -/
  | leading
  /-- Anything below a directory, at the end. -/
  | trailing
  /-- Any directories between two others. -/
  | between
  /-- One byte of a class, or not of it. -/
  | oneOf (negated : Bool) (ranges : List (Char × Char))
  /-- One of some alternatives. -/
  | choice (alternatives : List (List Part))
deriving Repr

/-- Why a text is no glob. -/
inductive Fault
  | unclosedClass
  | reversedRange (first last : Char)
  | unopenedChoice
  | unclosedChoice
  | danglingEscape
deriving DecidableEq, Repr

def Fault.message : Fault → String
  | unclosedClass => "unclosed character class; missing ']'"
  | reversedRange first last =>
      "invalid range; '" ++ first.toString ++ "' > '" ++ last.toString ++ "'"
  | unopenedChoice =>
      "unopened alternate group; missing '\x7b' (maybe escape '\x7d' with '[\x7d]'?)"
  | unclosedChoice =>
      "unclosed alternate group; missing '\x7d' (maybe escape '\x7b' with '[\x7b]'?)"
  | danglingEscape => "dangling '\\'"

/-! ### Classes -/

/-- The ranges of a class so far, last first, and whether a hyphen waits for the end of the last
one. -/
structure ClassState where
  ranges : List (Char × Char)
  isOpen : Bool

/-- Takes a character as a member or as the end of the last range. -/
def ClassState.take (s : ClassState) (c : Char) : Except Fault ClassState :=
  match s.isOpen, s.ranges with
  | true, (lo, _) :: rest =>
      if c < lo then .error (.reversedRange lo c) else .ok ⟨(lo, c) :: rest, false⟩
  | _, ranges => .ok ⟨(c, c) :: ranges, false⟩

/-- The ranges in order; a hyphen that waits in vain is a member. -/
def ClassState.finish (s : ClassState) : List (Char × Char) :=
  (if s.isOpen then ('-', '-') :: s.ranges else s.ranges).reverse

/-- Reads the members of a class up to its end: the ranges and what follows. -/
def classMembers : ClassState → List Char → Except Fault (List (Char × Char) × List Char)
  | _, [] => .error .unclosedClass
  | s, c :: rest =>
      if s.ranges.isEmpty then classMembers ⟨[(c, c)], false⟩ rest
      else if c = ']' then .ok (s.finish, rest)
      else if c = '-' ∧ ¬ s.isOpen then classMembers { s with isOpen := true } rest
      else do classMembers (← s.take c) rest

/-- Reads a class after its opening bracket. -/
def classPart (s : List Char) : Except Fault (Part × List Char) := do
  let (negated, s) := match s with
    | c :: rest => if c = '!' ∨ c = '^' then (true, rest) else (false, s)
    | [] => (false, s)
  let (ranges, rest) ← classMembers ⟨[], false⟩ s
  return (.oneOf negated ranges, rest)

/-! ### Stars and choices -/

/-- A choice that is not closed yet: the parts before it, last first, and its finished alternatives,
last first. -/
structure Frame where
  before : List Part
  finished : List (List Part)

/-- What was read so far: the open choices, innermost first, the parts of the current alternative,
last first, and the character before. -/
structure State where
  frames : List Frame
  parts : List Part
  prev : Option Char

def State.start : State := ⟨[], [], none⟩

/-- Adds a part that ends with the character `c`. -/
def State.add (s : State) (p : Part) (c : Char) : State :=
  { s with parts := p :: s.parts, prev := some c }

/-- Two stars that stand for nothing more than one. -/
def State.addStars (s : State) : State :=
  { s with parts := .star :: .star :: s.parts, prev := some '*' }

/-- Takes two stars after the parts `last :: before`, at the end of a glob or alternative, or before
a slash. -/
def joined (last : Part) (before : List Part) (atEnd : Bool) : List Part :=
  match last with
  | .leading => .leading :: before
  | .trailing => .trailing :: before
  | _ => (if atEnd then .trailing else .between) :: before

/-- Takes two stars; `rest` is what follows them. -/
def State.takeStars (s : State) (rest : List Char) : State × List Char :=
  match s.parts with
  | [] =>
      match rest with
      | [] => ({ s with parts := [.leading], prev := some '*' }, [])
      | c :: rest' =>
          if c = '/' then ({ s with parts := [.leading], prev := some '/' }, rest')
          else (s.addStars, rest)
  | last :: before =>
      let afterOpener := !s.frames.isEmpty && (s.prev = some ',' || s.prev = some '\x7b')
      if s.prev ≠ some '/' ∧ ¬ afterOpener then (s.addStars, rest)
      else match rest with
        | [] => ({ s with parts := joined last before true, prev := some '*' }, [])
        | c :: rest' =>
            if !s.frames.isEmpty && (c = ',' || c = '\x7d') then
              ({ s with parts := joined last before true, prev := some '*' }, rest)
            else if c = '/' then
              ({ s with parts := joined last before false, prev := some '/' }, rest')
            else (s.addStars, rest)

/-- Reads one part: the state after it and what follows. -/
def State.take (s : State) (c : Char) (rest : List Char) : Except Fault (State × List Char) :=
  match c with
  | '?' => .ok (s.add .any c, rest)
  | '*' =>
      match rest with
      | '*' :: rest => .ok (s.takeStars rest)
      | _ => .ok (s.add .star c, rest)
  | '[' => do
      let (part, rest) ← classPart rest
      return (s.add part ']', rest)
  | '\x7b' => .ok (⟨⟨s.parts, []⟩ :: s.frames, [], some c⟩, rest)
  | '\x7d' =>
      match s.frames with
      | [] => .error .unopenedChoice
      | f :: frames =>
          let part := .choice ((s.parts.reverse :: f.finished).reverse)
          .ok (⟨frames, part :: f.before, some c⟩, rest)
  | ',' =>
      match s.frames with
      | [] => .ok (s.add (.literal c) c, rest)
      | f :: frames =>
          .ok (⟨{ f with finished := s.parts.reverse :: f.finished } :: frames, [], some c⟩, rest)
  | '\\' =>
      match rest with
      | [] => .error .danglingEscape
      | d :: rest => .ok (s.add (.literal d) d, rest)
  | _ => .ok (s.add (.literal c) c, rest)

/-- Reads parts to the end of the text. -/
def readParts : Nat → State → List Char → Except Fault (List Part)
  | 0, _, _ => .ok []
  | fuel + 1, s, text =>
      match text with
      | [] => if s.frames.isEmpty then .ok s.parts.reverse else .error .unclosedChoice
      | c :: rest => do
          let (s, rest) ← s.take c rest
          readParts fuel s rest

def parse (text : List Char) : Except Fault (List Part) :=
  readParts (text.length + 1) .start text

end ScopedStyles.Glob
