import ScopedStyles.Address
import ScopedStyles.Registry

/-! # Virtual modules

What the host gets when it loads a virtual address.  A registered token yields a comment naming the
source file and then its stylesheet, and asks the host to watch that file; a token without an entry
(or an address that is not well formed) yields an empty module, since the transform that owns it
will register it later.  Ids without the reserved start are not answered. -/

namespace ScopedStyles

/-- The body of a virtual module and the files whose changes rebuild it. -/
structure LoadedModule where
  code : String
  watchFiles : List String
deriving DecidableEq, Repr

namespace LoadedModule

/-- The module of a token that nothing was registered for yet. -/
def empty : LoadedModule := ⟨"", []⟩

/-- The comment that names the source file, on a line of its own. -/
def header (source : String) : List Char :=
  "\n/* miniwind ".toList ++ source.toList ++ " */\n".toList

def ofEntry (e : Entry) : LoadedModule :=
  ⟨String.ofList (header e.source ++ (e.artifact.getD "").toList), [e.source]⟩

end LoadedModule

namespace Registry

/-- The entry behind a well-formed virtual address. -/
def entryAt? (r : Registry) (id : String) : Option Entry := (Address.token? id).bind r.get?

/-- What loading an id yields; `none` for ids that are not virtual. -/
def load (r : Registry) (id : String) : Option LoadedModule :=
  if Address.isVirtual id then
    some (match r.entryAt? id with
      | some e => LoadedModule.ofEntry e
      | none => LoadedModule.empty)
  else none

/-- Whether loading an id asks for a virtual module before it was registered. -/
def isEarly (r : Registry) (id : String) : Bool := Address.isVirtual id && (r.entryAt? id).isNone

end Registry
end ScopedStyles
