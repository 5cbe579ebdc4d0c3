import ScopedStyles.Regex.Lead
import ScopedStyles.Regex.LiteralTree

/-! # The size limit

A regular expression stands for a machine that reads bytes, once forward and once backward, and is
refused if one of the two is too big (`Form.isTooBig`).  States are built in a fixed order, since
their numbers have a part in how much of a class is shared.  What is searched for as texts needs no
machine and is never too big. -/

namespace ScopedStyles.Regex

open ScopedStyles.Pattern (Look)

/-! ### Where a machine may start -/

/-- The condition that holds nowhere but where a direction begins. -/
def Direction.outset : Direction → Look
  | forward => .textStart
  | backward => .textStop

namespace Form

mutual

/-- Whether every span of a form has to begin where the direction begins. -/
def isAnchored (d : Direction) : Form → Bool
  | .look l => l = d.outset
  | .repeated lo _ _ sub => 0 < lo && sub.isAnchored d
  | .group sub => sub.isAnchored d
  | .cat subs => allAnchored d subs
  | .alt subs => anyAnchored d subs
  | .empty => false
  | .text _ => false
  | .set _ _ => false

/-- The same for forms one after another: those count that nothing but zero-width forms precedes
in the direction. -/
def allAnchored (d : Direction) : List Form → Bool
  | [] => false
  | f :: rest =>
      match d with
      | .forward => f.isAnchored d || (f.isZeroWidth && allAnchored d rest)
      | .backward => (f.isAnchored d && areZeroWidth rest) || allAnchored d rest

/-- The same for alternatives. -/
def anyAnchored (d : Direction) : List Form → Bool
  | [] => true
  | f :: rest => f.isAnchored d && anyAnchored d rest

end

/-! ### Machines -/

/-- Several copies of a machine, at least a state. -/
def buildCopies (sub : Building Unit) (n : Nat) : Building Unit :=
  if n = 0 then Building.states 1 else Building.times sub n

/-- A branching state in front of a machine that may be passed over. -/
def buildOptional (sub : Building Unit) : Building Unit := do
  Building.states 1
  sub
  Building.ways 2

/-- The machine for a repetition.  A loop over what may be empty takes two branching states. -/
def buildRepeated (sub : Building Unit) (isNonEmpty : Bool) (lo : Nat) (hi : Option Nat) :
    Building Unit :=
  match hi with
  | none =>
      if lo = 0 then
        if isNonEmpty then buildOptional sub
        else do
          sub
          Building.states 3
          Building.ways 4
      else do
        Building.times sub lo
        Building.states 1
        Building.ways 2
  | some hi =>
      if lo = hi then buildCopies sub lo
      else if hi = 1 then do
        buildOptional sub
        Building.states 1
      else do
        buildCopies sub lo
        Building.states 1
        Building.times (buildOptional sub) (hi - lo)

mutual

def build (d : Direction) : Form → Building Unit
  | .empty => Building.states 1
  | .text codes => Building.states (bytesOf codes).length
  | .set isBytes s => Utf8.buildSet d isBytes s
  | .look _ => Building.states 1
  | .repeated lo hi _ sub => buildRepeated (sub.build d) sub.isNonEmpty lo hi
  | .group sub =>
      match d with
      | .forward => do
          Building.states 1
          sub.build d
          Building.states 1
      | .backward => sub.build d
  | .cat subs => buildAll d subs
  | .alt subs =>
      match subs.mapM text? with
      | some texts => LiteralTree.machine d (texts.map bytesOf)
      | none => buildAny d subs

/-- The machine for forms one after another. -/
def buildAll (d : Direction) : List Form → Building Unit
  | [] => return
  | f :: rest =>
      match d with
      | .forward => do
          f.build d
          buildAll d rest
      | .backward => do
          buildAll d rest
          f.build d

/-- The machine for alternatives: a state that branches and one where they meet, which are built
after two of them. -/
def buildAny (d : Direction) : List Form → Building Unit
  | [] => return
  | [f] => f.build d
  | f :: g :: rest => do
      f.build d
      g.build d
      Building.states 2
      Building.ways 2
      buildMore d rest

/-- The machines for further alternatives. -/
def buildMore (d : Direction) : List Form → Building Unit
  | [] => return
  | f :: rest => do
      f.build d
      Building.ways 1
      buildMore d rest

end

/-- A state in front of a machine that is bound to the place where the direction begins; a loop over
any bytes in front of any other. -/
def buildFront (isBound : Bool) : Building Unit := do
  if isBound then Building.states 1
  else
    Building.states 2
    let _ ← Building.branch 1
    Building.ways 2

/-- The whole machine: forward it also reports where a match begins and ends. -/
def machine (d : Direction) (f : Form) : Building Unit := do
  buildFront (f.isAnchored d)
  match d with
  | .forward => (group f).build d
  | .backward => f.build d
  Building.states 1

def isTooBig (f : Form) : Bool :=
  !f.isTextual && ((f.machine .forward).isTooBig || (f.machine .backward).isTooBig)

end Form

def tooBigMessage : String :=
  "Compiled regex exceeds size limit of " ++ String.ofList (Nat.toDigits 10 sizeLimit) ++ " bytes."

end ScopedStyles.Regex
