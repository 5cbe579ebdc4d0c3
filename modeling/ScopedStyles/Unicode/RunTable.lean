import ScopedStyles.CodeSet

/-! # Compact tables of character sets

A set of characters is written as its runs: the gap since the end of the run before, and after a
plus sign how many characters more than one the run has, both in hexadecimal.  `41+19 6+19` is the
ASCII letters.  `Runs.set` reads such a text. -/

namespace ScopedStyles.Unicode

/-- A set with its names, the short one first. -/
structure Named where
  names : List String
  runs : String

namespace Runs

/-- The number of a lowercase hexadecimal digit. -/
def digit (c : Char) : Nat := if c ≤ '9' then c.toNat - 48 else c.toNat - 87

/-- Adds a digit to the number being read. -/
def more (n : Option Nat) (c : Char) : Option Nat := some (16 * n.getD 0 + digit c)

/-- The rest of the items: `n` is the number being read, if one has begun, and `item` holds the
finished numbers before it in the item, last first. -/
def itemsFrom : List Char → Option Nat → List Nat → List (List Nat)
  | [], none, _ => []
  | [], some n, item => [(n :: item).reverse]
  | c :: cs, n, item =>
      if c = '+' then itemsFrom cs none (n.toList ++ item)
      else if c = ' ' ∨ c = '\n' then
        match n with
        | none => itemsFrom cs none item
        | some n => (n :: item).reverse :: itemsFrom cs none []
      else itemsFrom cs (more n c) item

/-- The items between blanks, each a list of the numbers between its plus signs. -/
def items (text : String) : List (List Nat) := itemsFrom text.toList none []

/-- The ranges of items that follow each other from `pos` on. -/
def rangesFrom : Nat → List (List Nat) → List Range
  | _, [] => []
  | pos, item :: rest =>
      let lo := pos + item.headD 0
      let hi := lo + item.getD 1 0
      ⟨lo, hi⟩ :: rangesFrom (hi + 1) rest

/-- The set that a text of runs writes. -/
def set (text : String) : CodeSet := ⟨rangesFrom 0 (items text)⟩

/-- The running sums of a list, from a start on. -/
def sums (start : Nat) : List Nat → List Nat
  | [] => []
  | d :: ds => (start + d) :: sums (start + d) ds

/-- Items as ascending lists: an item's first number counts from the first member of the list
before, each further number from the member before. -/
def ascending : Nat → List (List Nat) → List (List Nat)
  | _, [] => []
  | start, item :: rest =>
      sums start item :: ascending (start + item.headD 0) rest

end Runs

/-- The set of a table entry. -/
def Named.set (e : Named) : CodeSet := Runs.set e.runs

end ScopedStyles.Unicode
