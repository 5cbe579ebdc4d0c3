/-! # The shortest decimal of a double

A finite positive double is `m · 2^q`; the reals that round to it form an interval around it.  The
shortest decimal is the one with the fewest digits in that interval, and of those the nearest to the
double.  The search tries one digit, two digits and so on: on each decimal grid only the two
neighbours of the double can be in the interval if any point is. -/

namespace ScopedStyles

/-- The decimal `digits · 10^exponent`. -/
structure Decimal where
  digits : Nat
  exponent : Int
deriving DecidableEq, Repr

namespace Decimal

/-- The ratio of two numbers, the second one positive. -/
structure Ratio where
  num : Nat
  den : Nat
deriving DecidableEq, Repr

namespace Ratio

/-- `r · b^e` for an integer exponent. -/
def scale (r : Ratio) (b : Nat) (e : Int) : Ratio :=
  if 0 ≤ e then ⟨r.num * b.pow e.toNat, r.den⟩ else ⟨r.num, r.den * b.pow (-e).toNat⟩

def le (r s : Ratio) : Bool := r.num * s.den ≤ s.num * r.den

def lt (r s : Ratio) : Bool := r.num * s.den < s.num * r.den

def floor (r : Ratio) : Nat := r.num / r.den

end Ratio

/-- The reals that round to a double: between two ratios, the ends included or not. -/
structure Interval where
  value : Ratio
  low : Ratio
  high : Ratio
  closed : Bool

namespace Interval

/-- The interval of the double `m · 2^q`; below the least double of a binade the gap is half as
wide. -/
def ofBinary (m : Nat) (q : Int) (isBinadeStart : Bool) : Interval :=
  let at4 (n : Nat) : Ratio := (⟨n, 1⟩ : Ratio).scale 2 (q - 2)
  { value := at4 (4 * m)
    low := at4 (4 * m - if isBinadeStart then 1 else 2)
    high := at4 (4 * m + 2)
    closed := m % 2 = 0 }

def contains (i : Interval) (r : Ratio) : Bool :=
  if i.closed then i.low.le r && r.le i.high else i.low.lt r && r.lt i.high

end Interval

/-- The point of the grid of multiples of `10^e` that is in the interval and nearest to its value;
of two at the same distance the even one. -/
def onGrid? (i : Interval) (e : Int) : Option Decimal :=
  let down := (i.value.scale 10 (-e)).floor
  let point (n : Nat) : Ratio := (⟨n, 1⟩ : Ratio).scale 10 e
  let isIn (n : Nat) : Bool := i.contains (point n)
  match isIn down, isIn (down + 1) with
  | false, false => none
  | true, false => some ⟨down, e⟩
  | false, true => some ⟨down + 1, e⟩
  | true, true =>
      let twice := (i.value.scale 10 (-e)).scale 2 1
      let middle : Ratio := ⟨2 * down + 1, 1⟩
      if twice.lt middle then some ⟨down, e⟩
      else if middle.lt twice then some ⟨down + 1, e⟩
      else some ⟨if down % 2 = 0 then down else down + 1, e⟩

/-- The decimal exponent of the first digit: the greatest `e` down from a start with `10^e` at most
the ratio. -/
def leadingExponent (r : Ratio) : Nat → Int → Int
  | 0, e => e
  | n + 1, e => if ((⟨1, 1⟩ : Ratio).scale 10 e).le r then e else leadingExponent r n (e - 1)

/-- Tries grids with more and more digits. -/
def firstGrid (i : Interval) (lead : Int) : Nat → Nat → Option Decimal
  | 0, _ => none
  | n + 1, tried =>
      match onGrid? i (lead - tried) with
      | some d => some d
      | none => firstGrid i lead n (tried + 1)

/-- The same decimal with no zero at the end of its digits. -/
def trim (d : Decimal) : Nat → Decimal
  | 0 => d
  | n + 1 =>
      if d.digits % 10 = 0 ∧ d.digits ≠ 0 then trim ⟨d.digits / 10, d.exponent + 1⟩ n else d

/-- The fields of a double: sign, biased exponent of eleven bits, and fraction of fifty-two. -/
structure Fields where
  negative : Bool
  biased : Nat
  fraction : Nat
deriving DecidableEq, Repr

def Fields.ofBits (bits : Nat) : Fields :=
  ⟨bits.testBit 63, (bits >>> 52) % 2048, bits % (1 <<< 52)⟩

/-- The shortest decimal of a finite double, its sign left out; zero has none. -/
def shortest? (x : Fields) : Option Decimal :=
  let m := if x.biased = 0 then x.fraction else (1 <<< 52) + x.fraction
  let q : Int := (if x.biased = 0 then 1 else x.biased : Nat) - 1075
  if m = 0 then none
  else
    let i := Interval.ofBinary m q (x.fraction = 0 && 1 < x.biased)
    (firstGrid i (leadingExponent i.value 640 310) 17 0).map (·.trim 20)

end Decimal
end ScopedStyles
