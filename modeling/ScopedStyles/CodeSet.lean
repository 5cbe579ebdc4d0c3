/-! # Sets of symbols as ranges

Patterns speak of sets of characters or bytes, which are numbers here.  A `CodeSet` lists closed
ranges; a number is in the set if one of the ranges holds it (`CodeSet.contains`).  The operations
keep ranges sorted and apart when they are given sorted ranges, and their meaning does not depend on
that. -/

namespace ScopedStyles

/-- A closed range of numbers. -/
structure Range where
  lo : Nat
  hi : Nat
deriving DecidableEq, Repr

namespace Range

def contains (r : Range) (c : Nat) : Bool := r.lo ≤ c && c ≤ r.hi

def size (r : Range) : Nat := r.hi + 1 - r.lo

/-- What of the range lies outside another. -/
def cut (r s : Range) : List Range :=
  if s.hi < r.lo ∨ r.hi < s.lo then [r]
  else
    (if r.lo < s.lo then [⟨r.lo, s.lo - 1⟩] else []) ++
    (if s.hi < r.hi then [⟨s.hi + 1, r.hi⟩] else [])

/-- What of the range lies in another as well. -/
def meet (r s : Range) : List Range :=
  if s.hi < r.lo ∨ r.hi < s.lo then [] else [⟨max r.lo s.lo, min r.hi s.hi⟩]

end Range

/-- A set of numbers. -/
structure CodeSet where
  ranges : List Range
deriving DecidableEq, Repr

namespace CodeSet

def empty : CodeSet := ⟨[]⟩

def ofRange (lo hi : Nat) : CodeSet := ⟨if lo ≤ hi then [⟨lo, hi⟩] else []⟩

def singleton (c : Nat) : CodeSet := ofRange c c

def contains (s : CodeSet) (c : Nat) : Bool := s.ranges.any (·.contains c)

/-- Adds a range to sorted ranges; ranges that touch become one. -/
def insertRange (r : Range) : List Range → List Range
  | [] => [r]
  | q :: rest =>
      if r.hi + 1 < q.lo then r :: q :: rest
      else if q.hi + 1 < r.lo then q :: insertRange r rest
      else insertRange ⟨min r.lo q.lo, max r.hi q.hi⟩ rest

def union (s t : CodeSet) : CodeSet := ⟨t.ranges.foldl (fun acc r => insertRange r acc) s.ranges⟩

def diff (s t : CodeSet) : CodeSet :=
  ⟨t.ranges.foldl (fun acc r => acc.flatMap (·.cut r)) s.ranges⟩

def inter (s t : CodeSet) : CodeSet := ⟨s.ranges.flatMap fun r => t.ranges.flatMap r.meet⟩

def symmDiff (s t : CodeSet) : CodeSet := (s.union t).diff (s.inter t)

def unions (l : List CodeSet) : CodeSet := l.foldl union empty

def ofList (l : List Nat) : CodeSet := l.foldl (fun s c => s.union (singleton c)) empty

def isEmpty (s : CodeSet) : Bool := s.ranges.isEmpty

/-- The only member of a set that has just one. -/
def single? (s : CodeSet) : Option Nat :=
  match s.ranges with
  | [r] => if r.lo = r.hi then some r.lo else none
  | _ => none

def isBelow (s : CodeSet) (n : Nat) : Bool := s.ranges.all (·.hi < n)

end CodeSet
end ScopedStyles
