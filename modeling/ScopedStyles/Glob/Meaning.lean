import ScopedStyles.Bytes.Utf8
import ScopedStyles.Glob.Syntax
import ScopedStyles.Pattern.Search

/-! # The meaning of globs

A glob spans whole texts, read as UTF-8 bytes.  Stars and question marks take any bytes, slashes
too.  A class speaks of bytes: a character outside ASCII contributes each of its bytes, and a range
runs from the last byte of its first character to the first byte of its last character. -/

namespace ScopedStyles.Glob

open ScopedStyles.Pattern

def bytes : CodeSet := .ofRange 0 255

/-- The bytes of a character as numbers. -/
def codes (c : Char) : List Nat := (String.utf8EncodeChar c).map UInt8.toNat

def byte (b : Nat) : Pattern := .atom (.set (.singleton b))

def anyByte : Pattern := .atom (.set bytes)

def anyBytes : Pattern := .repeated 0 none anyByte

def slash : Pattern := byte 47

/-- The bytes of a range of a class. -/
def rangeSet (lo hi : Char) : CodeSet :=
  if lo = hi then .ofList (codes lo)
  else
    let first := codes lo
    let last := codes hi
    CodeSet.unions [.ofList first.dropLast, .ofRange (first.getLastD 0) (last.headD 0),
      .ofList (last.drop 1)]

/-- The bytes of a class. -/
def classSet (negated : Bool) (ranges : List (Char × Char)) : CodeSet :=
  let s := CodeSet.unions (ranges.map fun r => rangeSet r.1 r.2)
  if negated then bytes.diff s else s

def anyOf : Pattern → List Pattern → Pattern
  | e, [] => e
  | e, f :: rest => .alt e (anyOf f rest)

mutual

/-- The expression of a part; `none` for a choice without any alternative that is not empty. -/
def Part.expr? : Part → Option Pattern
  | .literal c => some (Expr.cats ((codes c).map byte))
  | .any => some anyByte
  | .star => some anyBytes
  | .leading => some (.alt (.repeated 0 (some 1) slash) (.cat anyBytes slash))
  | .trailing => some (.cat slash anyBytes)
  | .between => some (.alt slash (.cat slash (.cat anyBytes slash)))
  | .oneOf negated ranges => some (.atom (.set (classSet negated ranges)))
  | .choice alternatives =>
      match Part.alternativeExprs alternatives with
      | [] => none
      | e :: rest => some (anyOf e rest)

/-- The expression of some parts in a row; `none` if it is empty. -/
def Part.rowExpr? : List Part → Option Pattern
  | [] => none
  | p :: rest =>
      match Part.expr? p, Part.rowExpr? rest with
      | none, f => f
      | some e, none => some e
      | some e, some f => some (.cat e f)

/-- The expressions of the alternatives that are not empty. -/
def Part.alternativeExprs : List (List Part) → List Pattern
  | [] => []
  | ps :: rest =>
      match Part.rowExpr? ps with
      | none => Part.alternativeExprs rest
      | some e => e :: Part.alternativeExprs rest

end

/-- The expression of a whole glob.  A glob of nothing but directories stands for everything. -/
def expr (parts : List Part) : Pattern :=
  match parts with
  | [.leading] => anyBytes
  | _ => (Part.rowExpr? parts).getD .empty

def matchesText (parts : List Part) (text : List Char) : Bool :=
  matchesWhole (expr parts) ((Utf8.bytes text).map UInt8.toNat)

end ScopedStyles.Glob
