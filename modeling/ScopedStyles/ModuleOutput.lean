import ScopedStyles.Json.Decode
import ScopedStyles.VirtualModule

/-! # What the host receives

Transformed code and loaded modules, and their JSON forms. -/

namespace ScopedStyles

/-- The result of a transform. -/
structure Output where
  code : String
  map : Option String
deriving DecidableEq, Repr

open Json (Decoded Fault)

namespace LoadedModule

def toJson (m : LoadedModule) : Json :=
  .object [("code", .string m.code), ("watchFiles", .array (m.watchFiles.map .string))]

def check (name : String) (v : Json) : Decoded Unit :=
  if name = "code" then discard v.asText
  else if name = "watchFiles" then discard (v.asList Json.asText)
  else .ok ()

def ofJson : Json → Decoded LoadedModule
  | .object members => do
      Json.checkMembers check members members
      return {
        code := ← Json.field members "code" Json.asText
        watchFiles := ← Json.field members "watchFiles" (Json.asList Json.asText) }
  | .array vs => do
      let expected := "struct LoadedModule with 2 elements"
      let code ← Json.place vs 0 expected Json.asText
      let watchFiles ← Json.place vs 1 expected (Json.asList Json.asText)
      Json.noFurther .direct vs 2
      return { code, watchFiles }
  | v => .error (.wrongType v "struct LoadedModule")

end LoadedModule

namespace Output

def toJson (o : Output) : Json := .object [("code", .string o.code), ("map", Json.ofOption o.map)]

def check (name : String) (v : Json) : Decoded Unit :=
  if name = "code" then discard v.asText
  else if name = "map" then discard v.asOptionalText
  else .ok ()

/-- Reads an output; a missing map is no map. -/
def ofJson : Json → Decoded Output
  | .object members => do
      Json.checkMembers check members members
      return {
        code := ← Json.field members "code" Json.asText
        map := ← Json.fieldOr members "map" none Json.asOptionalText }
  | .array vs => do
      let expected := "struct TransformOutput with 2 elements"
      let code ← Json.place vs 0 expected Json.asText
      let map ← Json.place vs 1 expected Json.asOptionalText
      Json.noFurther .direct vs 2
      return { code, map }
  | v => .error (.wrongType v "struct TransformOutput")

end Output
end ScopedStyles
