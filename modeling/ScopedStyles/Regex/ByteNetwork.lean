import Std.Data.HashMap
import ScopedStyles.CodeSet
import ScopedStyles.Regex.Tally

/-! # Machines for classes of characters

A class of characters becomes a network of states with byte ranges between them.  A range of
characters is cut into parts whose encodings are a product of byte ranges (`sequences`).  Read
forward, parts with equal rests share them (`buildForward`); read backward, parts with equal
beginnings share them (`buildBackward`).

Whether a state is already there is looked up in a table with a fixed number of slots.  A state
whose slot another one has taken since is built again, so the tables decide how large a network
is. -/

namespace ScopedStyles.Regex.Utf8

/-! ### Products of byte ranges -/

abbrev ByteRange := Nat × Nat

/-- The UTF-8 bytes of a character's number. -/
def encode (c : Nat) : List Nat :=
  if c < 0x80 then [c]
  else if c < 0x800 then [0xC0 + c / 64, 0x80 + c % 64]
  else if c < 0x10000 then [0xE0 + c / 4096, 0x80 + c / 64 % 64, 0x80 + c % 64]
  else [0xF0 + c / 262144, 0x80 + c / 4096 % 64, 0x80 + c / 64 % 64, 0x80 + c % 64]

/-- The first number of a further length of encodings that a range reaches into. -/
def lengthStep? (lo hi : Nat) : Option Nat :=
  [0x80, 0x800, 0x10000].find? fun b => lo < b ∧ b ≤ hi

/-- Where a range has to be cut so that its parts are products: `unit` is 64, 4096 or 262144. -/
def alignStep? (lo hi : Nat) : List Nat → Option Nat
  | [] => none
  | unit :: units =>
      if lo / unit = hi / unit then alignStep? lo hi units
      else if lo % unit ≠ 0 then some ((lo / unit + 1) * unit)
      else if hi % unit ≠ unit - 1 then some (hi / unit * unit)
      else alignStep? lo hi units

/-- The parts of a range of characters, in order. -/
def sequences : Nat → Nat → Nat → List (List ByteRange)
  | 0, _, _ => []
  | fuel + 1, lo, hi =>
      let cut := (lengthStep? lo hi).or
        (if hi < 0x80 then none else alignStep? lo hi [64, 4096, 262144])
      match cut with
      | some c => sequences fuel lo (c - 1) ++ sequences fuel c hi
      | none => [(encode lo).zip (encode hi)]

/-- The parts of all ranges of a set. -/
def setSequences (s : CodeSet) : List (List ByteRange) :=
  s.ranges.flatMap fun r => sequences 40 r.lo r.hi

/-! ### Tables of states -/

/-- States by what they were built for: each slot holds the newest one. -/
abbrev Slots (κ : Type) := Std.HashMap Nat (κ × Nat)

/-- The state for a key, unless another one has its slot. -/
def Slots.state? [DecidableEq κ] (s : Slots κ) (slot : Nat) (key : κ) : Option Nat :=
  match s[slot]? with
  | some (k, id) => if k = key then some id else none
  | none => none

/-- A construction with a table of states. -/
abbrev Sharing (κ : Type) := StateT (Slots κ) Building

/-- The state for a key, which is built if the table does not have it. -/
def share [DecidableEq κ] (slot : Nat) (key : κ) (build : Building Nat) : Sharing κ Nat := do
  match (← get).state? slot key with
  | some id => return id
  | none =>
      let id ← build
      modify (·.insert slot (key, id))
      return id

/-- A number that sums up a list of numbers: the hash FNV-1a, fed with whole numbers. -/
def digest (l : List Nat) : UInt64 :=
  l.foldl (fun h n => (h ^^^ n.toUInt64) * 1099511628211) 14695981039346656037

/-! ### Forward -/

/-- The edges of a state: byte ranges with the numbers of the states behind them. -/
abbrev Edges := List (ByteRange × Nat)

/-- The slot of a state with edges, of ten thousand. -/
def Edges.slot (es : Edges) : Nat :=
  (digest (es.flatMap fun e => [e.1.1, e.1.2, e.2]) % 10000).toNat

/-- Groups parts that follow each other and begin with the same byte range. -/
def grouped : List (List ByteRange) → List (ByteRange × List (List ByteRange))
  | [] => []
  | [] :: rest => grouped rest
  | (r :: tail) :: rest =>
      match grouped rest with
      | (q, tails) :: more =>
          if q = r then (q, tail :: tails) :: more else (r, [tail]) :: (q, tails) :: more
      | [] => [(r, [tail])]

/-- The state for parts with at most `depth` bytes each; `target` is the state behind them. -/
def buildParts (target : Nat) : Nat → List (List ByteRange) → Sharing Edges Nat
  | 0, _ => return target
  | depth + 1, parts =>
      if parts.all List.isEmpty then return target
      else do
        let es ← (grouped parts).mapM fun g => do return (g.1, ← buildParts target depth g.2)
        share (Edges.slot es) es (Building.branch es.length)

/-- The network that reads a class forward. -/
def buildForward (s : CodeSet) : Building Unit := do
  let target ← Building.state
  let _ ← (buildParts target 4 (setSequences s)).run ∅

/-! ### Backward -/

/-- The slot of a state that reads a byte range and goes on to a state, of one thousand. -/
def linkSlot (link : ByteRange × Nat) : Nat :=
  (digest [link.2, link.1.1, link.1.2] % 1000).toNat

/-- The state for a part, last byte first; `target` is the state behind its first byte. -/
def buildPart (target : Nat) : List ByteRange → Sharing (ByteRange × Nat) Nat
  | [] => return target
  | r :: rest => do
      let id ← share (linkSlot (r, target)) (r, target) Building.state
      buildPart id rest

/-- The states for parts, each with a way into it. -/
def buildEachPart (target : Nat) : List (List ByteRange) → Sharing (ByteRange × Nat) Unit
  | [] => return
  | p :: rest => do
      let _ ← buildPart target p
      Building.ways 1
      buildEachPart target rest

/-- The network that reads a class backward. -/
def buildBackward (s : CodeSet) : Building Unit := do
  let _ ← Building.state
  let target ← Building.state
  let _ ← (buildEachPart target (setSequences s)).run ∅

/-! ### Classes -/

/-- The machine for one character of a set, or for one byte of it.  For bytes, and for characters
within ASCII, one state with an edge for each range is enough. -/
def buildSet (d : Direction) (isBytes : Bool) (s : CodeSet) : Building Unit :=
  if isBytes || s.isBelow 128 then do
    let _ ← Building.state
    let _ ← Building.branch s.ranges.length
  else
    match d with
    | .forward => buildForward s
    | .backward => buildBackward s

end ScopedStyles.Regex.Utf8
