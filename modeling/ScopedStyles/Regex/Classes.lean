import ScopedStyles.Regex.Syntax
import ScopedStyles.Unicode.Property

/-! # The meaning of classes

The sets of characters that classes stand for under the flags in force (`Modes`).  Without the
Unicode flag a class is a set of bytes; since patterns run on text, it has to keep to ASCII. -/

namespace ScopedStyles.Regex

/-- The flags in force that change what a pattern means. -/
structure Modes where
  caseless : Bool
  multiLine : Bool
  dotAll : Bool
  swapGreed : Bool
  unicode : Bool
  crlf : Bool
deriving DecidableEq, Repr

namespace Modes

/-- The flags at the start of a pattern. -/
def start : Modes := ⟨false, false, false, false, true, false⟩

def set (m : Modes) : Flag × Bool → Modes
  | (.caseless, b) => { m with caseless := b }
  | (.multiLine, b) => { m with multiLine := b }
  | (.dotAll, b) => { m with dotAll := b }
  | (.swapGreed, b) => { m with swapGreed := b }
  | (.unicode, b) => { m with unicode := b }
  | (.crlf, b) => { m with crlf := b }
  | (.freeSpacing, _) => m

def setAll (m : Modes) (flags : Flags) : Modes := flags.foldl set m

end Modes

def AsciiKind.set : AsciiKind → CodeSet
  | alnum => ⟨[⟨48, 57⟩, ⟨65, 90⟩, ⟨97, 122⟩]⟩
  | alpha => ⟨[⟨65, 90⟩, ⟨97, 122⟩]⟩
  | ascii => ⟨[⟨0, 127⟩]⟩
  | blank => ⟨[⟨9, 9⟩, ⟨32, 32⟩]⟩
  | cntrl => ⟨[⟨0, 31⟩, ⟨127, 127⟩]⟩
  | digit => ⟨[⟨48, 57⟩]⟩
  | graph => ⟨[⟨33, 126⟩]⟩
  | lower => ⟨[⟨97, 122⟩]⟩
  | print => ⟨[⟨32, 126⟩]⟩
  | punct => ⟨[⟨33, 47⟩, ⟨58, 64⟩, ⟨91, 96⟩, ⟨123, 126⟩]⟩
  | space => ⟨[⟨9, 13⟩, ⟨32, 32⟩]⟩
  | upper => ⟨[⟨65, 90⟩]⟩
  | word => ⟨[⟨48, 57⟩, ⟨65, 90⟩, ⟨95, 95⟩, ⟨97, 122⟩]⟩
  | xdigit => ⟨[⟨48, 57⟩, ⟨65, 70⟩, ⟨97, 102⟩]⟩

/-- The ASCII class that a letter class is without the Unicode flag. -/
def PerlKind.ascii : PerlKind → AsciiKind
  | digit => .digit
  | space => .space
  | word => .word

def PerlKind.set : PerlKind → CodeSet
  | digit => Unicode.decimalDigits
  | space => Unicode.whiteSpace
  | word => Unicode.wordCharacters

def allBytes : CodeSet := ⟨[⟨0, 255⟩]⟩

/-- Adds the ASCII letters that differ from a member by case alone. -/
def closeAsciiCase (s : CodeSet) : CodeSet :=
  let upper := (s.inter AsciiKind.lower.set).ranges.map fun r => (⟨r.lo - 32, r.hi - 32⟩ : Range)
  let lower := (s.inter AsciiKind.upper.set).ranges.map fun r => (⟨r.lo + 32, r.hi + 32⟩ : Range)
  (s.union ⟨upper⟩).union ⟨lower⟩

namespace Modes

/-- Closes a set under change of case if the flags say so. -/
def fold (m : Modes) (s : CodeSet) : CodeSet :=
  if m.caseless then (if m.unicode then Unicode.closeCase s else closeAsciiCase s) else s

/-- All characters but those of a set, or all bytes but those. -/
def complement (m : Modes) (s : CodeSet) : CodeSet :=
  if m.unicode then Unicode.complement s else allBytes.diff s

/-- A class that stands at `span`: bytes outside ASCII are refused. -/
def checked (m : Modes) (span : Span) (s : CodeSet) : Except Fault CodeSet :=
  if m.unicode || s.isBelow 128 then .ok s else .error ⟨.invalidUtf8, span, none⟩

/-- A class after its flags and its negation; case comes first. -/
def finish (m : Modes) (span : Span) (negated : Bool) (s : CodeSet) : Except Fault CodeSet :=
  let s := m.fold s
  m.checked span (if negated then m.complement s else s)

end Modes

/-- The number of a literal: without the Unicode flag the form of a byte stands for that byte, which
has to be ASCII. -/
def Literal.code (m : Modes) (l : Literal) : Except Fault Nat :=
  if !m.unicode && l.isByte && 127 < l.char.toNat then .error ⟨.invalidUtf8, l.span, none⟩
  else .ok l.char.toNat

/-- The number of a literal in a class. -/
def Literal.classCode (m : Modes) (l : Literal) : Except Fault Nat := do
  let n ← l.code m
  if !m.unicode && 127 < n then throw ⟨.unicodeNotAllowed, l.span, none⟩
  else return n

def propertySet (m : Modes) (span : Span) (query : PropertyQuery) (negated : Bool) :
    Except Fault CodeSet :=
  if m.unicode then
    let answer := match query with
      | .named name => Unicode.propertyNamed name
      | .valued name value => Unicode.propertyValued name value
    match answer with
    | .ok s => m.finish span negated s
    | .error .unknownProperty => .error ⟨.propertyUnknown, span, none⟩
    | .error .unknownValue => .error ⟨.propertyValueUnknown, span, none⟩
  else .error ⟨.unicodeNotAllowed, span, none⟩

def perlSet (m : Modes) (span : Span) (kind : PerlKind) (negated : Bool) : Except Fault CodeSet :=
  let s := if m.unicode then kind.set else kind.ascii.set
  m.checked span (if negated then m.complement s else s)

def rangeSet (lo hi : Nat) : CodeSet :=
  let r := CodeSet.ofRange lo hi
  if hi < 0xD800 ∨ 0xDFFF < lo then r else r.inter Unicode.scalars

def SetOperation.apply : SetOperation → CodeSet → CodeSet → CodeSet
  | inter, s, t => s.inter t
  | diff, s, t => s.diff t
  | symmDiff, s, t => s.symmDiff t

mutual

def ClassNode.set (m : Modes) : ClassNode → Except Fault CodeSet
  | .empty _ => .ok .empty
  | .literal l => do return .singleton (← l.classCode m)
  | .range _ first last => do
      let lo ← first.classCode m
      let hi ← last.classCode m
      return rangeSet lo hi
  | .ascii span kind negated => m.finish span negated kind.set
  | .property span query negated => propertySet m span query negated
  | .perl span kind negated => perlSet m span kind negated
  | .bracketed span negated body => do m.finish span negated (← body.set m)
  | .union _ items => ClassNode.unionSet m items .empty
  | .operation _ op left right => do
      let l ← left.set m
      let r ← right.set m
      return op.apply (m.fold l) (m.fold r)

/-- The characters of some nodes and of a set. -/
def ClassNode.unionSet (m : Modes) : List ClassNode → CodeSet → Except Fault CodeSet
  | [], s => .ok s
  | n :: rest, s => do ClassNode.unionSet m rest (s.union (← n.set m))

end

end ScopedStyles.Regex
