import ScopedStyles.Decimal.Shortest
import ScopedStyles.Json.Value

/-! # JSON text

The compact text of a value: no blanks, members in their order, all but quotes, backslashes and
control characters written as they are.  Floats are written with the fewest digits that read back,
always with a point or an exponent. -/

namespace ScopedStyles.Json

/-! ### Strings -/

/-- The four-digit escape of a control character. -/
def controlEscape (c : Char) : List Char :=
  let hex (n : Nat) : Char := if n < 10 then Char.ofNat (48 + n) else Char.ofNat (87 + n)
  ['\\', 'u', '0', '0', hex (c.toNat / 16), hex (c.toNat % 16)]

/-- A character inside quotes. -/
def escape (c : Char) : List Char :=
  if c = '"' then ['\\', '"']
  else if c = '\\' then ['\\', '\\']
  else if c.toNat = 8 then ['\\', 'b']
  else if c.toNat = 12 then ['\\', 'f']
  else if c = '\n' then ['\\', 'n']
  else if c = '\r' then ['\\', 'r']
  else if c = '\t' then ['\\', 't']
  else if c.toNat < 32 then controlEscape c
  else [c]

def quoted (s : String) : List Char := '"' :: s.toList.flatMap escape ++ ['"']

/-! ### Floats -/

/-- Where the notation of a float changes: the decimal exponents of the first digit that are written
without an exponent. -/
structure FloatFormat where
  leastPositional : Int
  greatestPositional : Int

/-- Floats from `1e-5` up to below `1e16` are written out. -/
def floatFormat : FloatFormat := ⟨-5, 15⟩

/-- A decimal in this notation. -/
def decimalText (f : FloatFormat) (d : Decimal) : List Char :=
  let digits := Nat.toDigits 10 d.digits
  let lead : Int := d.exponent + digits.length - 1
  if f.leastPositional ≤ lead ∧ lead ≤ f.greatestPositional then
    if 0 ≤ d.exponent then digits ++ List.replicate d.exponent.toNat '0' ++ ['.', '0']
    else if 0 ≤ lead then digits.take (lead.toNat + 1) ++ '.' :: digits.drop (lead.toNat + 1)
    else '0' :: '.' :: List.replicate (-lead - 1).toNat '0' ++ digits
  else
    let mantissa := match digits with
      | [] => []
      | [c] => [c]
      | c :: rest => c :: '.' :: rest
    let sign := if lead < 0 then '-' else '+'
    mantissa ++ 'e' :: sign :: Nat.toDigits 10 lead.natAbs

/-- A float; what is not finite is written as `null`. -/
def floatText (x : Float) : List Char :=
  let fields := Decimal.Fields.ofBits x.toBits.toNat
  if fields.biased = 2047 then "null".toList
  else
    let sign := if fields.negative then ['-'] else []
    match Decimal.shortest? fields with
    | none => sign ++ "0.0".toList
    | some d => sign ++ decimalText floatFormat d

def integerText (n : Int) : List Char :=
  (if n < 0 then ['-'] else []) ++ Nat.toDigits 10 n.natAbs

/-! ### Values -/

mutual

/-- The compact text of a value. -/
def chars : Json → List Char
  | null => "null".toList
  | bool b => (if b then "true" else "false").toList
  | integer n => integerText n
  | float x => floatText x
  | string s => quoted s
  | array items => '[' :: itemChars items ++ [']']
  | object members => '{' :: memberChars members ++ ['}']

/-- The items of an array with commas between. -/
def itemChars : List Json → List Char
  | [] => []
  | [x] => chars x
  | x :: y :: rest => chars x ++ ',' :: itemChars (y :: rest)

/-- The members of an object with commas between. -/
def memberChars : List (String × Json) → List Char
  | [] => []
  | [(k, v)] => quoted k ++ ':' :: chars v
  | (k, v) :: m :: rest => quoted k ++ ':' :: chars v ++ ',' :: memberChars (m :: rest)

end

def render (v : Json) : String := String.ofList (chars v)

end ScopedStyles.Json
