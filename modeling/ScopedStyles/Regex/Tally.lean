/-! # What a machine takes

A regular expression stands for a machine of numbered states.  A `Tally` counts the states so far
and the memory they take; a `Building` is a step of the construction, and it fails at the state or
way with which the machine outgrows `sizeLimit`. -/

namespace ScopedStyles.Regex

/-- The memory that a machine may take. -/
def sizeLimit : Nat := 10 * 1024 * 1024

/-- The memory of a state, apart from its ways out. -/
def stateMemory : Nat := 32

/-- The memory of an edge, which is a way out over a range of bytes. -/
def edgeMemory : Nat := 8

/-- The memory of a way out that reads nothing. -/
def wayMemory : Nat := 4

/-- The states and the memory of a machine so far. -/
structure Tally where
  states : Nat
  memory : Nat
deriving DecidableEq, Repr

/-- A step of the construction of a machine. -/
abbrev Building := StateT Tally Option

namespace Building

/-- Takes states and memory, as far as the limit allows; gives the number of the first state. -/
def take (states memory : Nat) : Building Nat := fun t =>
  let memory := t.memory + memory
  if memory ≤ sizeLimit then some (t.states, ⟨t.states + states, memory⟩) else none

/-- A state with a single way out, or with none; gives its number. -/
def state : Building Nat := take 1 stateMemory

def states (n : Nat) : Building Unit := do
  let _ ← take n (n * stateMemory)

/-- A state with edges; gives its number. -/
def branch (edges : Nat) : Building Nat := take 1 (stateMemory + edges * edgeMemory)

/-- Ways out that read nothing. -/
def ways (n : Nat) : Building Unit := do
  let _ ← take 0 (n * wayMemory)

/-- The same step several times; no further step is taken after one that fails. -/
def times (step : Building Unit) : Nat → Building Unit
  | 0, t => some ((), t)
  | n + 1, t =>
      match step t with
      | none => none
      | some (_, t) => times step n t

def isTooBig (b : Building Unit) : Bool := (b.run ⟨0, 0⟩).isNone

end Building

/-! ### Directions -/

inductive Direction
  | forward
  | backward
deriving DecidableEq, Repr

/-- A list in the order in which a direction meets its members. -/
def Direction.arrange (d : Direction) (l : List α) : List α :=
  match d with
  | .forward => l
  | .backward => l.reverse

end ScopedStyles.Regex
