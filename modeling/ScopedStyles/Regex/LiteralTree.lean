import ScopedStyles.Regex.Tally

/-! # Machines for alternatives that are texts

Alternatives that are plain texts become a tree in which texts with equal beginnings share them.  A
text that ends inside the tree comes before those that go on after it, so the texts behind it start
a new bunch of edges at that place. -/

namespace ScopedStyles.Regex.LiteralTree

/-- Texts as byte strings. -/
abbrev Texts := List (List Nat)

/-- The bunches of the texts that go on from a place, cut where a text ends there.  While no text
has gone on, further ends are no cuts. -/
def bunches : Texts → List Texts
  | [] => [[]]
  | [] :: rest => [] :: bunches rest
  | w :: rest =>
      match bunches rest with
      | b :: more => (w :: b) :: more
      | [] => [[w]]

/-- Leaves out all but one of the ends at the beginning. -/
def skipEnds : Texts → Texts
  | [] => []
  | w :: rest => if w.isEmpty ∧ rest.head? = some [] then skipEnds rest else w :: rest

/-- The rests of the texts of a bunch by their first bytes. -/
def edges (bunch : Texts) : List Texts :=
  (bunch.filterMap List.head?).eraseDups.map fun b =>
    bunch.filterMap fun w => if w.head? = some b then some w.tail else none

/-- The state for a bunch, if there are edges in it. -/
def buildBunch (edges : List Texts) : Building Unit := do
  match edges with
  | [] => return
  | [_] =>
      let _ ← Building.state
      Building.ways 1
  | _ =>
      let _ ← Building.branch edges.length
      Building.ways 1

/-- The states for the texts from a place on, which have at most `depth` bytes: one for each bunch
and one that leads to them and to the end.  Where no text goes on there is nothing to build. -/
def build : Nat → Texts → Building Unit
  | 0, _ => return
  | depth + 1, texts =>
      if texts.all List.isEmpty then return
      else do
        let bs := bunches (skipEnds texts)
        bs.forM fun b => do
          let es := edges b
          es.forM (build depth)
          buildBunch es
        let _ ← Building.state
        Building.ways (bs.length - 1)

/-- The machine for alternatives that are texts. -/
def machine (d : Direction) (texts : Texts) : Building Unit := do
  let _ ← Building.state
  build ((texts.map List.length).foldl max 0 + 1) (texts.map d.arrange)

end ScopedStyles.Regex.LiteralTree
