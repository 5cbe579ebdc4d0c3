import ScopedStyles.Bytes.Sha256
import ScopedStyles.Bytes.Utf8

/-! # Scope tokens

A file is known to the rest of the pipeline by a short token: the first four bytes of the SHA-256
digest of its identity, written as eight lowercase hexadecimal digits.  `Token.digits` writes a
token, `Token.ofDigits?` reads it back and refuses every other text, and `Token.ofIdentity` derives
the token of a file. -/

namespace ScopedStyles

/-! ### Hexadecimal digits -/

namespace Hex

/-- The lowercase digit of a number below 16. -/
def digit (n : Nat) : Char := if n < 10 then Char.ofNat (48 + n) else Char.ofNat (87 + n)

/-- The number of a lowercase digit. -/
def value? (c : Char) : Option Nat :=
  if '0' ≤ c ∧ c ≤ '9' then some (c.toNat - 48)
  else if 'a' ≤ c ∧ c ≤ 'f' then some (c.toNat - 87)
  else none

/-- The two digits of a byte. -/
def ofByte (b : UInt8) : List Char := [digit (b.toNat / 16), digit (b.toNat % 16)]

/-- The byte that two digits write. -/
def byte? (h l : Char) : Option UInt8 := do
  return UInt8.ofNat ((← value? h) * 16 + (← value? l))

end Hex

/-! ### Tokens -/

/-- A scope token: four bytes, most significant first. -/
structure Token where
  b₀ : UInt8
  b₁ : UInt8
  b₂ : UInt8
  b₃ : UInt8
deriving DecidableEq, Repr

namespace Token

def digits (t : Token) : List Char :=
  Hex.ofByte t.b₀ ++ Hex.ofByte t.b₁ ++ Hex.ofByte t.b₂ ++ Hex.ofByte t.b₃

def text (t : Token) : String := String.ofList t.digits

/-- Reads eight lowercase hexadecimal digits. -/
def ofDigits? : List Char → Option Token
  | [c₀, c₁, c₂, c₃, c₄, c₅, c₆, c₇] => do
      return ⟨← Hex.byte? c₀ c₁, ← Hex.byte? c₂ c₃, ← Hex.byte? c₄ c₅, ← Hex.byte? c₆ c₇⟩
  | _ => none

/-- The number that the four bytes write; tokens are ordered by it, which is the order of their
texts. -/
def toNat (t : Token) : Nat :=
  ((t.b₀.toNat * 256 + t.b₁.toNat) * 256 + t.b₂.toNat) * 256 + t.b₃.toNat

instance : LT Token := ⟨fun s t => s.toNat < t.toNat⟩

instance (s t : Token) : Decidable (s < t) := inferInstanceAs (Decidable (s.toNat < t.toNat))

def ofIdentity (id : String) : Token :=
  let d := Sha256.digest (Utf8.bytes id.toList)
  ⟨d[0], d[1], d[2], d[3]⟩

/-- The class selector that styles of a token are nested under. -/
def selector (t : Token) : String := String.ofList ('.' :: t.digits)

end Token
end ScopedStyles
