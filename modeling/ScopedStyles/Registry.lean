import ScopedStyles.Token

/-! # The registry

What each token last produced.  Entries are overwritten and never removed, and a write of what is
already there is reported as no change.  The registry is a list of entries in increasing order of
their tokens; `Registry.get?` is the view that its laws are stated on. -/

namespace ScopedStyles

/-- What a source file last produced. -/
structure Entry where
  /-- The identity of the file that owns the token. -/
  source : String
  /-- The stylesheet; absent when the generator produced nothing, which is not the same as empty. -/
  artifact : Option String
deriving DecidableEq, Repr

/-- What a write did to the registry. -/
inductive Change
  | inserted
  | changed
  | unchanged
deriving DecidableEq, Repr

namespace Change

/-- Whether the registry now holds something else. -/
def isModified : Change → Bool
  | unchanged => false
  | _ => true

def name : Change → String
  | inserted => "Inserted"
  | changed => "Changed"
  | unchanged => "Unchanged"

end Change

/-- Entries by token, in increasing order of the tokens. -/
structure Registry where
  entries : List (Token × Entry)
deriving DecidableEq, Repr

namespace Registry

/-- The registry of a fresh session. -/
def empty : Registry := ⟨[]⟩

def get? (r : Registry) (t : Token) : Option Entry := r.entries.lookup t

/-- Sets the entry of a token in an increasing list. -/
def insertInto (t : Token) (e : Entry) : List (Token × Entry) → List (Token × Entry)
  | [] => [(t, e)]
  | (u, f) :: rest =>
      if t = u then (t, e) :: rest
      else if t < u then (t, e) :: (u, f) :: rest
      else (u, f) :: insertInto t e rest

/-- What writing `e` for `t` would do. -/
def change (r : Registry) (t : Token) (e : Entry) : Change :=
  match r.get? t with
  | none => .inserted
  | some f => if f = e then .unchanged else .changed

def put (r : Registry) (t : Token) (e : Entry) : Registry × Change :=
  let change := r.change t e
  (if change.isModified then ⟨insertInto t e r.entries⟩ else r, change)

def size (r : Registry) : Nat := r.entries.length

def isEmpty (r : Registry) : Bool := r.entries.isEmpty

/-- The tokens that have an entry, in increasing order. -/
def tokens (r : Registry) : List Token := r.entries.map (·.1)

end Registry
end ScopedStyles
