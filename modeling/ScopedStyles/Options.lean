import ScopedStyles.Json.Decode

/-! # Options

The include and exclude lists of a session and their JSON form.  A list that is not given stands for
the default list and is not written; an empty list is not the same thing.  A pattern is a text (a
glob) or an object with a text member `regex`. -/

namespace ScopedStyles

/-- One include or exclude rule. -/
inductive FilterPattern
  | glob (text : String)
  | regex (text : String)
deriving DecidableEq, Repr

/-- The options of a session. -/
structure Options where
  includes : Option (List FilterPattern)
  excludes : Option (List FilterPattern)
deriving DecidableEq, Repr

open Json (Decoded Fault)

namespace FilterPattern

/-- The text of a pattern as it was given. -/
def text : FilterPattern → String
  | glob t => t
  | regex t => t

def toJson : FilterPattern → Json
  | glob t => .string t
  | regex t => .object [("regex", .string t)]

def ofJson : Json → Decoded FilterPattern
  | .string t => .ok (.glob t)
  | .object members =>
      match Json.member? members "regex" with
      | some (.string t) => .ok (.regex t)
      | _ => .error (.noAlternative "FilterPattern")
  | _ => .error (.noAlternative "FilterPattern")

end FilterPattern

namespace Options

/-- The options of a host that gives none. -/
def default : Options := ⟨none, none⟩

/-- The JSON form of a list, if it is given. -/
def listMember (name : String) : Option (List FilterPattern) → List (String × Json)
  | none => []
  | some ps => [(name, .array (ps.map FilterPattern.toJson))]

def toJson (o : Options) : Json :=
  .object (listMember "include" o.includes ++ listMember "exclude" o.excludes)

/-- Reads a list of patterns, or `null` for none. -/
def readList : Json → Decoded (Option (List FilterPattern))
  | .null => .ok none
  | v => some <$> v.asList FilterPattern.ofJson

def check (name : String) (v : Json) : Decoded Unit :=
  if name = "include" ∨ name = "exclude" then discard (readList v) else .ok ()

/-- A list at a place of the array form; a place after the end is absent. -/
def readPlace (vs : List Json) (i : Nat) : Decoded (Option (List FilterPattern)) :=
  match vs[i]? with
  | some v => readList v
  | none => .ok none

def ofJson : Json → Decoded Options
  | .object members => do
      Json.checkMembers check members members
      return {
        includes := ← Json.fieldOr members "include" none readList
        excludes := ← Json.fieldOr members "exclude" none readList }
  | .array vs => do
      let includes ← readPlace vs 0
      let excludes ← readPlace vs 1
      Json.noFurther .direct vs 2
      return { includes, excludes }
  | v => .error (.wrongType v "struct ModuleScopeOptions")

end Options
end ScopedStyles
