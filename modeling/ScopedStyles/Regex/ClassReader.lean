import ScopedStyles.Regex.Escape

/-! # Reading classes in brackets

A class is a list of items; `&&`, `--` and `~~` combine everything before them with what follows,
all three alike from left to right.  Classes nest. -/

namespace ScopedStyles.Regex

open Reading

/-! ### Unions -/

/-- Items read so far, last one first, with the place where the next one would be alone. -/
structure Items where
  span : Span
  items : List ClassNode

namespace Items

def add (u : Items) (n : ClassNode) : Items :=
  let start := if u.items.isEmpty then n.span.start else u.span.start
  ⟨⟨start, n.span.stop⟩, n :: u.items⟩

def node (u : Items) : ClassNode :=
  match u.items with
  | [] => .empty u.span
  | [n] => n
  | ns => .union u.span ns.reverse

end Items

/-- A left operand that waits for its right one. -/
abbrev Pending := Option (SetOperation × ClassNode)

/-- Combines items with the operand before them. -/
def combine (pending : Pending) (u : Items) : ClassNode :=
  match pending with
  | none => u.node
  | some (op, leftNode) => .operation ⟨leftNode.span.start, u.node.span.stop⟩ op leftNode u.node

/-! ### Named classes -/

/-- The kind of class with a name. -/
def asciiKind? (name : List Char) : Option AsciiKind :=
  match String.ofList name with
  | "alnum" => some .alnum
  | "alpha" => some .alpha
  | "ascii" => some .ascii
  | "blank" => some .blank
  | "cntrl" => some .cntrl
  | "digit" => some .digit
  | "graph" => some .graph
  | "lower" => some .lower
  | "print" => some .print
  | "punct" => some .punct
  | "space" => some .space
  | "upper" => some .upper
  | "word" => some .word
  | "xdigit" => some .xdigit
  | _ => none

/-- Reads `[:name:]` at its bracket, if that is what comes. -/
def namedClass? : Reading (Option ClassNode) := do
  let before ← get
  match before.rest with
  | '[' :: ':' :: rest =>
      let (negated, body) := match rest with
        | '^' :: r => (true, r)
        | r => (false, r)
      let name := body.takeWhile (· ≠ ':')
      if !([':', ']'].isPrefixOf (body.dropWhile (· ≠ ':'))) then return none
      else match asciiKind? name with
        | none => return none
        | some kind =>
            let length := 2 + (if negated then 1 else 0) + name.length + 2
            let _ ← bumpIf (before.rest.take length)
            return some (.ascii ⟨before.pos, ← position⟩ kind negated)
  | _ => return none

/-! ### Items -/

/-- A single item as an item of a class. -/
def classItem : Node → Reading ClassNode
  | .literal l => return .literal l
  | .property span query negated => return .property span query negated
  | .perl span kind negated => return .perl span kind negated
  | n => fail .classEscape n.span

/-- A single item as an end of a range. -/
def rangeEnd : Node → Reading Literal
  | .literal l => return l
  | n => fail .classRangeBoundary n.span

/-- Reads one character or escape inside a class. -/
def classSingle : Reading Node := do
  match ← peek? with
  | some '\\' => escape
  | some c =>
      let span ← nextSpan
      let _ ← bump
      return .literal ⟨span, c, false⟩
  | none => fail .classUnclosed (← here)

/-- Reads an item or a range in the class that was opened at `opened`. -/
def classRange (opened : Span) : Reading ClassNode := do
  let first ← classSingle
  skipSpace
  if ← atEnd then fail .classUnclosed opened
  let next ← secondSolid?
  if (← peek?) ≠ some '-' || next = some ']' || next = some '-' then classItem first
  else if !(← bumpAndSkip) then fail .classUnclosed opened
  else
    let last ← classSingle
    let span : Span := ⟨first.span.start, last.span.stop⟩
    let lo ← rangeEnd first
    let hi ← rangeEnd last
    if hi.char < lo.char then fail .classRangeReversed span
    return .range span lo hi

/-- Reads hyphens at the start of a class that began at `start`. -/
def leadingHyphens (start : Position) : Nat → Items → Reading Items
  | 0, u => return u
  | fuel + 1, u => do
      if (← peek?) = some '-' then
        let u := u.add (.literal ⟨← nextSpan, '-', false⟩)
        if ← bumpAndSkip then leadingHyphens start fuel u
        else fail .classUnclosed (.point start)
      else return u

/-- Reads the opening of a class: whether it is negated, its first items, and the part of the
pattern that opens it. -/
def classOpening : Reading (Bool × Items × Span) := do
  let start ← position
  let unclosed : Reading Unit := do
    if !(← bumpAndSkip) then fail .classUnclosed ⟨start, ← position⟩
  unclosed
  let negated := (← peek?) = some '^'
  if negated then unclosed
  let u ← leadingHyphens start (← left) ⟨← here, []⟩
  if u.items.isEmpty && (← peek?) = some ']' then
    let u := u.add (.literal ⟨← nextSpan, ']', false⟩)
    unclosed
    return (negated, u, ⟨start, ← position⟩)
  else return (negated, u, ⟨start, ← position⟩)

/-- The operation that comes next. -/
def operationAt? : Reading (Option SetOperation) := do
  match ← peek?, ← second? with
  | some '&', some '&' => return some .inter
  | some '-', some '-' => return some .diff
  | some '~', some '~' => return some .symmDiff
  | _, _ => return none

/-- Reads the items of a class up to and with its closing bracket; the class was opened at `opened`.
-/
def classBody (opened : Span) (negated : Bool) : Nat → Pending → Items → Reading ClassNode
  | 0, _, _ => fail .classUnclosed opened
  | fuel + 1, pending, u => do
      skipSpace
      match ← peek? with
      | none => fail .classUnclosed opened
      | some ']' =>
          let body := combine pending u
          let _ ← bump
          return .bracketed ⟨opened.start, ← position⟩ negated body
      | some '[' =>
          match ← namedClass? with
          | some n => classBody opened negated fuel pending (u.add n)
          | none =>
              let (innerNegated, items, innerOpened) ← classOpening
              let n ← classBody innerOpened innerNegated fuel none items
              classBody opened negated fuel pending (u.add n)
      | some _ =>
          match ← operationAt? with
          | some op =>
              let _ ← bump
              let _ ← bump
              classBody opened negated fuel (some (op, combine pending u)) ⟨← here, []⟩
          | none => classBody opened negated fuel pending (u.add (← classRange opened))

/-- Reads a class at its opening bracket. -/
def bracketedClass : Reading ClassNode := do
  let fuel ← left
  let (negated, items, opened) ← classOpening
  classBody opened negated (fuel + 1) none items

end ScopedStyles.Regex
