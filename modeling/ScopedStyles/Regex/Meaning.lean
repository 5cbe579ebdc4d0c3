import ScopedStyles.Regex.Classes
import ScopedStyles.Regex.Form

/-! # The meaning of regular expressions

Brings a regular expression as written into simple form.  Flags hold from where they are set to the
end of the group around them, later alternatives included. -/

namespace ScopedStyles.Regex

open ScopedStyles.Pattern (Look)

/-- One character of a set, or one byte without the Unicode flag. -/
def Modes.oneOf (m : Modes) (s : CodeSet) : Form := .ofSet (!m.unicode) s

def literalSet (m : Modes) (c : Nat) : CodeSet := m.fold (.singleton c)

def dotSet (m : Modes) : CodeSet :=
  if m.dotAll then Unicode.scalars
  else if m.crlf then Unicode.complement ((CodeSet.singleton 10).union (.singleton 13))
  else Unicode.complement (.singleton 10)

/-- The characters that words consist of. -/
def Modes.words (m : Modes) : CodeSet :=
  if m.unicode then Unicode.wordCharacters else AsciiKind.word.set

def Assertion.look (m : Modes) : Assertion → Look
  | lineStart =>
      if m.multiLine then (if m.crlf then .lineStartCrlf else .lineStart) else .textStart
  | lineStop => if m.multiLine then (if m.crlf then .lineStopCrlf else .lineStop) else .textStop
  | textStart => .textStart
  | textStop => .textStop
  | edge => .edge .boundary m.words
  | notEdge => .edge .inside m.words
  | wordStart => .edge .start m.words
  | wordStop => .edge .stop m.words
  | wordStartHalf => .edge .halfStart m.words
  | wordStopHalf => .edge .halfStop m.words

mutual

/-- The form of a node, and the flags in force after it. -/
def Node.form (m : Modes) : Node → Except Fault (Form × Modes)
  | .empty _ => .ok (.empty, m)
  | .flags _ fs => .ok (.empty, m.setAll fs)
  | .literal l => do return (m.oneOf (literalSet m (← l.code m)), m)
  | .dot span =>
      if m.unicode then .ok (m.oneOf (dotSet m), m) else .error ⟨.invalidUtf8, span, none⟩
  | .assertion _ kind => .ok (.look (kind.look m), m)
  | .property span query negated => do
      return (m.oneOf (← propertySet m span query negated), m)
  | .perl span kind negated => do return (m.oneOf (← perlSet m span kind negated), m)
  | .bracketed span negated body => do
      return (m.oneOf (← m.finish span negated (← body.set m)), m)
  | .repetition _ lo hi isModest sub => do
      let (f, m) ← sub.form m
      return (.ofRepeated lo hi (isModest == m.swapGreed) f, m)
  | .group _ .capture sub => do
      let (f, _) ← sub.form m
      return (.group f, m)
  | .group _ (.plain fs) sub => do
      let (f, _) ← sub.form (m.setAll fs)
      return (f, m)
  | .alternation _ subs => do
      let (fs, m) ← Node.forms m subs
      return (.ofAlt fs, m)
  | .concat _ subs => do
      let (fs, m) ← Node.forms m subs
      return (.ofCat fs, m)

/-- The forms of nodes from left to right. -/
def Node.forms (m : Modes) : List Node → Except Fault (List Form × Modes)
  | [] => .ok ([], m)
  | n :: rest => do
      let (f, m) ← n.form m
      let (fs, m) ← Node.forms m rest
      return (f :: fs, m)

end

end ScopedStyles.Regex
