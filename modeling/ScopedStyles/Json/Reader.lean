import ScopedStyles.Json.Value

/-! # Reading JSON text

`Json.parse?` reads a whole text.  Members of an object end up in increasing order of their names,
the last of equal names counting.  A number without fraction and exponent that fits 64 bits, with or
without sign, is an integer; every other number is a double, computed from its first significant
digits (as many as fit 64 bits) by one multiplication or division with a power of ten.  A number
that is too large for a double is refused. -/

namespace ScopedStyles.Json

/-! ### Numbers -/

/-- A number below this fits 64 bits. -/
def wordLimit : Nat := UInt64.size

/-- Digits read so far: the significand, how often it has to be multiplied by ten, and whether
further digits no longer fit. -/
structure Significand where
  value : Nat
  exponent : Int
  isFull : Bool

namespace Significand

/-- Takes a digit before the point. -/
def whole (s : Significand) (d : Nat) : Significand :=
  if ¬ s.isFull ∧ s.value * 10 + d < wordLimit then { s with value := s.value * 10 + d }
  else { s with exponent := s.exponent + 1, isFull := true }

/-- Takes a digit after the point; `isFull` now speaks of these digits alone. -/
def fraction (s : Significand) (d : Nat) : Significand :=
  if ¬ s.isFull ∧ s.value * 10 + d < wordLimit then
    { s with value := s.value * 10 + d, exponent := s.exponent - 1 }
  else { s with isFull := true }

/-- The double of a significand: at most 309 steps bring the exponent into the range of the powers
of ten that doubles have. -/
def toFloat (s : Significand) : Float :=
  let power (n : Nat) : Float := Float.ofScientific 1 false n
  let rec go : Nat → Float → Nat → Float
    | 0, f, _ => f
    | fuel + 1, f, n => if n ≤ 308 then f / power n else go fuel (f / power 308) (n - 308)
  let f := (UInt64.ofNat s.value).toFloat
  if s.value = 0 then f
  else if 0 ≤ s.exponent then f * power s.exponent.toNat
  else go 400 f (-s.exponent).toNat

end Significand

/-- The number of a decimal digit. -/
def digitValue (c : Char) : Nat := c.toNat - 48

def number? (s : List Char) : Option (Json × List Char) :=
  let (negative, s) := match s with
    | '-' :: rest => (true, rest)
    | _ => (false, s)
  let wholes := s.takeWhile Char.isDigit
  let s := s.dropWhile Char.isDigit
  let isLong := match wholes with
    | '0' :: _ :: _ => true
    | _ => false
  if wholes.isEmpty ∨ isLong then none
  else
    let n := (wholes.map digitValue).foldl (fun n d => n * 10 + d) 0
    let start := (wholes.map digitValue).foldl Significand.whole ⟨0, 0, false⟩
    let (hasPoint, fractions, s) := match s with
      | '.' :: rest => (true, rest.takeWhile Char.isDigit, rest.dropWhile Char.isDigit)
      | _ => (false, [], s)
    let (hasExponent, sign, exponents, s) := match s with
      | e :: rest =>
          if e = 'e' ∨ e = 'E' then
            let (sign, rest) := match rest with
              | '+' :: r => (1, r)
              | '-' :: r => (-1, r)
              | r => ((1 : Int), r)
            (true, sign, rest.takeWhile Char.isDigit, rest.dropWhile Char.isDigit)
          else (false, 1, [], s)
      | [] => (false, 1, [], s)
    if (hasPoint ∧ fractions.isEmpty) ∨ (hasExponent ∧ exponents.isEmpty) then none
    else
      let isInteger := !hasPoint && !hasExponent &&
        (if negative then 0 < n && n ≤ wordLimit / 2 else n < wordLimit)
      if isInteger then some (integer (if negative then -(n : Int) else n), s)
      else
        let parts :=
          (fractions.map digitValue).foldl Significand.fraction { start with isFull := false }
        let shift := (exponents.map digitValue).foldl (fun (n : Nat) d => n * 10 + d) 0
        let x := { parts with exponent := parts.exponent + sign * min shift 100000 }.toFloat
        if x.isInf then none else some (float (if negative then -x else x), s)

/-! ### Strings -/

/-- The number of a hexadecimal digit in either case. -/
def hexValue? (c : Char) : Option Nat :=
  if '0' ≤ c ∧ c ≤ '9' then some (c.toNat - 48)
  else if 'a' ≤ c ∧ c ≤ 'f' then some (c.toNat - 87)
  else if 'A' ≤ c ∧ c ≤ 'F' then some (c.toNat - 55)
  else none

/-- Four hexadecimal digits. -/
def unit? : List Char → Option (Nat × List Char)
  | a :: b :: c :: d :: rest => do
      return (((← hexValue? a) * 4096 + (← hexValue? b) * 256 + (← hexValue? c) * 16
        + (← hexValue? d)), rest)
  | _ => none

/-- The character of a one-letter escape. -/
def shortEscape? (c : Char) : Option Char :=
  match c with
  | '"' => some '"'
  | '\\' => some '\\'
  | '/' => some '/'
  | 'b' => some (Char.ofNat 8)
  | 'f' => some (Char.ofNat 12)
  | 'n' => some '\n'
  | 'r' => some '\r'
  | 't' => some '\t'
  | _ => none

/-- The rest of a string after its opening quote; `acc` holds what was read, last character first.
-/
def stringRest? : Nat → List Char → List Char → Option (String × List Char)
  | 0, _, _ => none
  | fuel + 1, acc, s =>
      match s with
      | [] => none
      | '"' :: rest => some (String.ofList acc.reverse, rest)
      | '\\' :: 'u' :: rest => do
          let (high, rest) ← unit? rest
          if 0xD800 ≤ high ∧ high < 0xDC00 then
            match rest with
            | '\\' :: 'u' :: rest =>
                let (low, rest) ← unit? rest
                if 0xDC00 ≤ low ∧ low < 0xE000 then
                  let c := 0x10000 + (high - 0xD800) * 1024 + (low - 0xDC00)
                  stringRest? fuel (Char.ofNat c :: acc) rest
                else none
            | _ => none
          else if 0xDC00 ≤ high ∧ high < 0xE000 then none
          else stringRest? fuel (Char.ofNat high :: acc) rest
      | '\\' :: c :: rest => do stringRest? fuel ((← shortEscape? c) :: acc) rest
      | c :: rest => if c.toNat < 32 then none else stringRest? fuel (c :: acc) rest

/-! ### Values -/

def skipBlanks : List Char → List Char
  | c :: rest => if c = ' ' ∨ c = '\n' ∨ c = '\r' ∨ c = '\t' then skipBlanks rest else c :: rest
  | [] => []

/-- Sets a member, keeping the names in increasing order. -/
def insertMember (name : String) (v : Json) : List (String × Json) → List (String × Json)
  | [] => [(name, v)]
  | (k, w) :: rest =>
      if name = k then (name, v) :: rest
      else if name < k then (name, v) :: (k, w) :: rest
      else (k, w) :: insertMember name v rest

mutual

def value? : Nat → List Char → Option (Json × List Char)
  | 0, _ => none
  | fuel + 1, s =>
      match skipBlanks s with
      | 'n' :: 'u' :: 'l' :: 'l' :: rest => some (null, rest)
      | 't' :: 'r' :: 'u' :: 'e' :: rest => some (bool true, rest)
      | 'f' :: 'a' :: 'l' :: 's' :: 'e' :: rest => some (bool false, rest)
      | '"' :: rest => do
          let (t, rest) ← stringRest? (rest.length + 1) [] rest
          return (string t, rest)
      | '[' :: rest =>
          match skipBlanks rest with
          | ']' :: rest => some (array [], rest)
          | rest => do
              let (vs, rest) ← items? fuel rest
              return (array vs, rest)
      | '{' :: rest =>
          match skipBlanks rest with
          | '}' :: rest => some (object [], rest)
          | rest => do
              let (ms, rest) ← members? fuel [] rest
              return (object ms, rest)
      | rest => number? rest

/-- Reads the items of an array up to its end. -/
def items? : Nat → List Char → Option (List Json × List Char)
  | 0, _ => none
  | fuel + 1, s => do
      let (v, rest) ← value? fuel s
      match skipBlanks rest with
      | ',' :: rest => do
          let (vs, rest) ← items? fuel rest
          return (v :: vs, rest)
      | ']' :: rest => return ([v], rest)
      | _ => none

/-- Reads the members of an object up to its end and adds them to those before. -/
def members? : Nat → List (String × Json) → List Char → Option (List (String × Json) × List Char)
  | 0, _, _ => none
  | fuel + 1, before, s =>
      match skipBlanks s with
      | '"' :: rest => do
          let (name, rest) ← stringRest? (rest.length + 1) [] rest
          match skipBlanks rest with
          | ':' :: rest => do
              let (v, rest) ← value? fuel rest
              let before := insertMember name v before
              match skipBlanks rest with
              | ',' :: rest => members? fuel before rest
              | '}' :: rest => return (before, rest)
              | _ => none
          | _ => none
      | _ => none

end

def parse? (text : String) : Option Json := do
  let s := text.toList
  let (v, rest) ← value? (2 * s.length + 2) s
  if (skipBlanks rest).isEmpty then return v else none

end ScopedStyles.Json
