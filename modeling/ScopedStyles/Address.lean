import ScopedStyles.Token

/-! # Virtual addresses

The stylesheet of a token lives at `/@miniwind/<token>.css`.  Addresses are computed and never
stored: `Address.ofToken` writes one, `Address.token?` reads the token back, and `Address.isVirtual`
tells the ids that the plugin answers for (every id with the reserved start, well formed or not). -/

namespace ScopedStyles.Address

/-- What every virtual address starts with. -/
def opening : String := "/@miniwind/"

/-- What every well-formed virtual address ends with. -/
def ending : String := ".css"

def ofToken (t : Token) : String :=
  String.ofList (opening.toList ++ t.digits ++ ending.toList)

/-- What follows `p` in `s`, if `s` starts with `p`. -/
def afterOpening? (p s : List Char) : Option (List Char) :=
  if p.isPrefixOf s then some (s.drop p.length) else none

/-- What precedes `e` in `s`, if `s` ends with `e`. -/
def beforeEnding? (e s : List Char) : Option (List Char) :=
  if e.isSuffixOf s then some (s.take (s.length - e.length)) else none

/-- Whether an id has the reserved start. -/
def isVirtual (id : String) : Bool := opening.toList.isPrefixOf id.toList

/-- The token of a well-formed virtual address. -/
def token? (id : String) : Option Token := do
  let rest ← afterOpening? opening.toList id.toList
  let digits ← beforeEnding? ending.toList rest
  Token.ofDigits? digits

/-- Ids with the reserved start resolve to themselves; all others are left to the host. -/
def resolve (id : String) : Option String := if isVirtual id then some id else none

end ScopedStyles.Address
