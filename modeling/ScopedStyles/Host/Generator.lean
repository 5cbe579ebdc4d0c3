import ScopedStyles.Host.Server

/-! # A scripted style generator

A generator with canned stylesheets: by the exact code of a module, else by its id.  It fails for
chosen ids, and leaves calls for chosen code waiting. -/

namespace ScopedStyles.Host

/-- The script of the generator. -/
structure Generator where
  byCode : List (String × String)
  byId : List (String × String)
  failures : List (String × String)
  closed : List String

namespace Generator

/-- Produces nothing for any module. -/
def empty : Generator := ⟨[], [], [], []⟩

/-- The answer to a call; `none` while calls for its code wait. -/
def answer? (g : Generator) (code id : String) : Option (Except String (Option String)) :=
  if g.closed.contains code then none
  else match g.failures.lookup id with
    | some message => some (.error message)
    | none => some (.ok ((g.byCode.lookup code).or (g.byId.lookup id)))

end Generator

/-- A call that the generator got. -/
structure GeneratorCall where
  code : String
  id : String
  scope : Option String
deriving DecidableEq, Repr

end ScopedStyles.Host
