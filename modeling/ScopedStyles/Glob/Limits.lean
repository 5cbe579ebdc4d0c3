import ScopedStyles.Glob.Meaning
import ScopedStyles.Regex.Size
import ScopedStyles.Regex.Syntax

/-! # Limits of globs

Before it is used a glob is made into a regular expression, and the limits of regular expressions
hold for that: it may not nest too deep (`nesting`), and the machine that it stands for may not be
too big (`form`).  A glob that is over a limit is read like any other, but there is no machine that
could match it (`excess?`). -/

namespace ScopedStyles.Glob

open Regex (Form)

/-! ### Nesting -/

/-- What stands in a row in a regular expression: how many items, and how deep the deepest nests. -/
structure Outline where
  items : Nat
  depth : Nat
deriving DecidableEq, Repr

namespace Outline

def empty : Outline := ⟨0, 0⟩

/-- Items with no level of their own, such as characters. -/
def flat (n : Nat) : Outline := ⟨n, 0⟩

/-- A repetition of a character. -/
def repetition : Outline := ⟨1, 1⟩

/-- A class; more than one member takes a level besides that of the brackets. -/
def ofClass (members : Nat) : Outline := ⟨1, if 1 < members then 2 else 1⟩

def append (o p : Outline) : Outline := ⟨o.items + p.items, max o.depth p.depth⟩

/-- The levels of a row as one expression: a sequence of several items is a level. -/
def levels (o : Outline) : Nat := if 1 < o.items then o.depth + 1 else o.depth

/-- A group of alternatives; more than one of them take a level besides that of the group. -/
def group (alternatives : List Outline) : Outline :=
  let depth := (alternatives.map levels).foldl max 0
  ⟨1, if 1 < alternatives.length then depth + 2 else depth + 1⟩

end Outline

/-- How many members the range of a class is written as. -/
def rangeMembers (lo hi : Char) : Nat :=
  if lo = hi then (codes lo).length else (codes lo).length + (codes hi).length - 1

mutual

def Part.outline : Part → Outline
  | .literal c => .flat (codes c).length
  | .any => .flat 1
  | .star => .repetition
  | .leading => .group [.repetition, .append .repetition (.flat 1)]
  | .trailing => .append (.flat 1) .repetition
  | .between => .group [.flat 1, .append (.flat 1) (.append .repetition (.flat 1))]
  | .oneOf _ ranges => .ofClass (ranges.foldl (fun n r => n + rangeMembers r.1 r.2) 0)
  | .choice alternatives =>
      match Part.alternativeOutlines alternatives with
      | [] => .empty
      | os => .group os

def Part.rowOutline : List Part → Outline
  | [] => .empty
  | p :: rest => (Part.outline p).append (Part.rowOutline rest)

/-- The outlines of the alternatives that are not empty. -/
def Part.alternativeOutlines : List (List Part) → List Outline
  | [] => []
  | ps :: rest =>
      let o := Part.rowOutline ps
      if o.items = 0 then Part.alternativeOutlines rest
      else o :: Part.alternativeOutlines rest

end

/-- How deep the expression of a whole glob nests.  Its row also has the flag for bytes and the two
ends of the text. -/
def nesting (parts : List Part) : Nat :=
  let o := match parts with
    | [.leading] => .repetition
    | _ => Part.rowOutline parts
  ((Outline.flat 3).append o).levels

/-! ### Size -/

/-- Any bytes. -/
def starForm : Form := .ofRepeated 0 none true (.ofSet true bytes)

def slashForm : Form := .text [47]

mutual

/-- The simple form of a part; `none` for a choice without any alternative that is not empty. -/
def Part.form? : Part → Option Form
  | .literal c => some (.text [c.toNat])
  | .any => some (.ofSet true bytes)
  | .star => some starForm
  | .leading =>
      some (.ofAlt [.ofRepeated 0 (some 1) true slashForm, .ofCat [starForm, slashForm]])
  | .trailing => some (.ofCat [slashForm, starForm])
  | .between => some (.ofAlt [slashForm, .ofCat [slashForm, starForm, slashForm]])
  | .oneOf negated ranges => some (.ofSet true (classSet negated ranges))
  | .choice alternatives =>
      match Part.alternativeForms alternatives with
      | [] => none
      | fs => some (.ofAlt fs)

def Part.rowForms : List Part → List Form
  | [] => []
  | p :: rest => (Part.form? p).toList ++ Part.rowForms rest

/-- The forms of the alternatives that are not empty. -/
def Part.alternativeForms : List (List Part) → List Form
  | [] => []
  | ps :: rest =>
      match Part.rowForms ps with
      | [] => Part.alternativeForms rest
      | fs => .ofCat fs :: Part.alternativeForms rest

end

/-- The simple form of a whole glob, from one end of the text to the other. -/
def form (parts : List Part) : Form :=
  let fs := match parts with
    | [.leading] => [starForm]
    | _ => Part.rowForms parts
  .ofCat (.look .textStart :: fs ++ [.look .textStop])

/-! ### Excess -/

/-- The limit that a glob is over. -/
inductive Excess
  | nesting
  | size
deriving DecidableEq, Repr

/-- The limit that a glob is over, if there is one. -/
def excess? (parts : List Part) : Option Excess :=
  if Regex.nestLimit < nesting parts then some .nesting
  else if (form parts).isTooBig then some .size
  else none

end ScopedStyles.Glob
