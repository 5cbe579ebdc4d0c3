/-! # JSON values

Options, hot-update messages and loaded modules travel as JSON.  An object lists its members; a
member is looked up by its name, and the first of that name counts. -/

namespace ScopedStyles

/-- A JSON value.  Numbers written without fraction and exponent are integers. -/
inductive Json where
  | null
  | bool (b : Bool)
  | integer (n : Int)
  | float (x : Float)
  | string (s : String)
  | array (items : List Json)
  | object (members : List (String × Json))
deriving Inhabited

namespace Json

/-- The first member of a name. -/
def member? (members : List (String × Json)) (name : String) : Option Json := members.lookup name

/-- The member of a name, if the value is an object that has one. -/
def get? : Json → String → Option Json
  | object members, name => member? members name
  | _, _ => none

def text? : Json → Option String
  | string s => some s
  | _ => none

/-- A text or nothing. -/
def ofOption : Option String → Json
  | some s => string s
  | none => null

/-- A number that is not negative. -/
def nat (n : Nat) : Json := integer (Int.ofNat n)

end Json
end ScopedStyles
