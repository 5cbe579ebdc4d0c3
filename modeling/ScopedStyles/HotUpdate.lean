import ScopedStyles.Json.Decode

/-! # Hot updates

The message that tells connected clients to fetch a module again, and its JSON form.  A payload
carries its kind in a member `type`; each update inside carries its own kind in a member of the same
name. -/

namespace ScopedStyles

/-- What a client does with an update. -/
inductive UpdateKind
  | jsUpdate
deriving DecidableEq, Repr

/-- One module to fetch again. -/
structure Update where
  acceptedPath : String
  path : String
  /-- Milliseconds since the epoch. -/
  timestamp : UInt64
  kind : UpdateKind
deriving DecidableEq, Repr

/-- A message to the clients. -/
inductive Payload
  | update (updates : List Update)
deriving DecidableEq, Repr

/-- The update of exactly one module. -/
def Payload.single (address : String) (timestamp : UInt64) : Payload :=
  .update [⟨address, address, timestamp, .jsUpdate⟩]

/-! ### Writing -/

def UpdateKind.name : UpdateKind → String
  | jsUpdate => "js-update"

def Update.toJson (u : Update) : Json :=
  .object [("acceptedPath", .string u.acceptedPath), ("path", .string u.path),
    ("timestamp", .nat u.timestamp.toNat), ("type", .string u.kind.name)]

def Payload.toJson : Payload → Json
  | update updates =>
      .object [("type", .string "update"), ("updates", .array (updates.map Update.toJson))]

/-! ### Reading -/

open Json (Decoded Fault Route)

namespace UpdateKind

def ofName (name : String) : Decoded UpdateKind :=
  if name = "js-update" then .ok .jsUpdate else .error (.unknownVariant name "js-update")

/-- Whether a value stands for nothing, as the content of a kind must. -/
def isVoid (route : Route) : Json → Bool
  | .null => true
  | .object members => route = .aside && members.isEmpty
  | _ => false

/-- A kind is a name, or an object with the name as its only member and nothing in it. -/
def ofJson (route : Route) : Json → Decoded UpdateKind
  | .string name => ofName name
  | .object [(name, content)] => do
      let kind ← ofName name
      if isVoid route content then return kind else throw (.wrongType content "unit")
  | .object members => .error (.wrongValue (.object members) "map with a single key")
  | v => .error (.wrongType v "string or map")

end UpdateKind

namespace Update

def check (route : Route) (name : String) (v : Json) : Decoded Unit :=
  if name = "acceptedPath" ∨ name = "path" then discard v.asText
  else if name = "timestamp" then discard v.asWord
  else if name = "type" then discard (UpdateKind.ofJson route v)
  else .ok ()

def ofJson (route : Route) : Json → Decoded Update
  | .object members => do
      Json.checkMembers (check route) members members
      return {
        acceptedPath := ← Json.field members "acceptedPath" Json.asText
        path := ← Json.field members "path" Json.asText
        timestamp := ← Json.field members "timestamp" Json.asWord
        kind := ← Json.field members "type" (UpdateKind.ofJson route) }
  | .array vs => do
      let expected := "struct Update with 4 elements"
      let acceptedPath ← Json.place vs 0 expected Json.asText
      let path ← Json.place vs 1 expected Json.asText
      let timestamp ← Json.place vs 2 expected Json.asWord
      let kind ← Json.place vs 3 expected (UpdateKind.ofJson route)
      Json.noFurther route vs 4
      return { acceptedPath, path, timestamp, kind }
  | v => .error (.wrongType v "struct Update")

end Update

namespace Payload

def readTag : Json → Decoded Unit
  | .string name => if name = "update" then .ok () else .error (.unknownVariant name "update")
  | v => .error (.wrongType v "variant identifier")

/-- Reads a payload: its tag first, then the rest according to the tag. -/
def ofJson : Json → Decoded Payload
  | .object members => do
      Json.field members "type" readTag
      let updates ← Json.field members "updates" (Json.asList (Update.ofJson .aside))
      return .update updates
  | .array [] => .error (.missingField "type")
  | .array (tag :: rest) => do
      readTag tag
      let updates ← Json.place rest 0 "struct variant HmrPayload::Update with 1 element"
        (Json.asList (Update.ofJson .aside))
      Json.noFurther .aside rest 1
      return .update updates
  | v => .error (.wrongType v "internally tagged enum HmrPayload")

end Payload
end ScopedStyles
