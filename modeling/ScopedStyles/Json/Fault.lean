import ScopedStyles.Json.Printer
import ScopedStyles.Text.Shown

/-! # Faults in decoded values

Why a JSON value is not what was expected, and the sentence that says so. -/

namespace ScopedStyles.Json

/-- Why a value was refused. -/
inductive Fault
  /-- A value of the wrong kind. -/
  | wrongType (found : Json) (expected : String)
  /-- A value of the right kind that is not among the allowed ones. -/
  | wrongValue (found : Json) (expected : String)
  /-- An array with too few or too many items. -/
  | wrongLength (length : Nat) (expected : String)
  | missingField (name : String)
  | unknownVariant (name : String) (known : String)
  /-- A value that fits none of a type's alternatives. -/
  | noAlternative (type : String)

/-- How a message names a value. -/
def describe : Json → String
  | null => "null"
  | bool b => if b then "boolean `true`" else "boolean `false`"
  | integer n => "integer `" ++ String.ofList (integerText n) ++ "`"
  | float x => "floating point `" ++ String.ofList (floatText x) ++ "`"
  | string s => "string " ++ String.ofList (Shown.quoted s)
  | array _ => "sequence"
  | object _ => "map"

def Fault.message : Fault → String
  | wrongType found expected => "invalid type: " ++ found.describe ++ ", expected " ++ expected
  | wrongValue found expected => "invalid value: " ++ found.describe ++ ", expected " ++ expected
  | wrongLength length expected =>
      "invalid length " ++ String.ofList (Nat.toDigits 10 length) ++ ", expected " ++ expected
  | missingField name => "missing field `" ++ name ++ "`"
  | unknownVariant name known =>
      "unknown variant `" ++ name ++ "`, expected `" ++ known ++ "`"
  | noAlternative type => "data did not match any variant of untagged enum " ++ type

/-- A decoded value, or why there is none. -/
abbrev Decoded (α : Type) := Except Fault α

end ScopedStyles.Json
