import ScopedStyles.Json.Fault

/-! # Reading records out of JSON

A record is written as an object, whose unknown members are ignored, or as an array of its fields in
their order.  The functions here read the parts; each record's own module puts them together.  Where
a value has several faults the first in reading order is reported: members in the order in which
they stand, then missing fields in the order of the record. -/

namespace ScopedStyles.Json

/-- How a value reaches its reader: directly, or out of an enclosing value that was set aside until
its tag was known. -/
inductive Route
  | direct
  | aside
deriving DecidableEq, Repr

/-! ### Simple values -/

def asText : Json → Decoded String
  | string s => .ok s
  | v => .error (.wrongType v "a string")

/-- A text, or `null` for nothing. -/
def asOptionalText : Json → Decoded (Option String)
  | null => .ok none
  | v => some <$> asText v

/-- A number of 64 bits without sign. -/
def asWord : Json → Decoded UInt64
  | integer n =>
      if 0 ≤ n ∧ n.toNat < UInt64.size then .ok (UInt64.ofNat n.toNat)
      else .error (.wrongValue (integer n) "u64")
  | v => .error (.wrongType v "u64")

/-- The items of a list, read from left to right. -/
def items (read : Json → Decoded α) : List Json → Decoded (List α)
  | [] => .ok []
  | v :: rest => do
      let x ← read v
      let xs ← items read rest
      return x :: xs

/-- An array of values of one type. -/
def asList (read : Json → Decoded α) : Json → Decoded (List α)
  | array vs => items read vs
  | v => .error (.wrongType v "a sequence")

/-! ### Records as objects -/

/-- Checks the members from left to right; `all` are the members of the whole object. -/
def checkMembers (check : String → Json → Decoded Unit) (all : List (String × Json)) :
    List (String × Json) → Decoded Unit
  | [] => .ok ()
  | (name, _) :: rest => do
      match member? all name with
      | some v => check name v
      | none => pure ()
      checkMembers check all rest

/-- A field that has to be there. -/
def field (members : List (String × Json)) (name : String) (read : Json → Decoded α) : Decoded α :=
  match member? members name with
  | some v => read v
  | none => .error (.missingField name)

/-- A field with a value for its absence. -/
def fieldOr (members : List (String × Json)) (name : String) (absent : α)
    (read : Json → Decoded α) : Decoded α :=
  match member? members name with
  | some v => read v
  | none => .ok absent

/-! ### Records as arrays -/

/-- The field at a place of the array; `expected` describes the whole record. -/
def place (vs : List Json) (i : Nat) (expected : String) (read : Json → Decoded α) : Decoded α :=
  match vs[i]? with
  | some v => read v
  | none => .error (.wrongLength i expected)

/-- Refuses items after the first `n`. -/
def noFurther (route : Route) (vs : List Json) (n : Nat) : Decoded Unit :=
  if vs.length ≤ n then .ok ()
  else .error (.wrongLength vs.length (match route with
    | .direct => "fewer elements in array"
    | .aside =>
        if n = 1 then "1 element in sequence"
        else String.ofList (Nat.toDigits 10 n) ++ " elements in sequence"))

end ScopedStyles.Json
