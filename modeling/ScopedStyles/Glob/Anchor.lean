/-! # Anchoring globs

Globs are matched against absolute ids, so a relative glob is put below the base directory.  The
base is taken literally: its special characters are escaped. -/

namespace ScopedStyles.Glob

/-- Backslashes as slashes. -/
def slashed (s : List Char) : List Char := s.map fun c => if c = '\\' then '/' else c

/-- The characters that stand for themselves only inside a class. -/
def isSpecial (c : Char) : Bool :=
  c = '?' || c = '*' || c = '[' || c = ']' || c = '\x7b' || c = '\x7d'

/-- The glob that matches a text and nothing else. -/
def escape (s : List Char) : List Char :=
  s.flatMap fun c => if isSpecial c then ['[', c, ']'] else [c]

/-- A text without the slashes at its end. -/
def trimSlashes (s : List Char) : List Char := (s.reverse.dropWhile (· = '/')).reverse

/-- Whether a glob is matched as it is, whatever the base. -/
def isAnchored : List Char → Bool
  | '/' :: _ => true
  | '*' :: '*' :: _ => true
  | _ => false

/-- A relative glob without one `./` at its start. -/
def relative : List Char → List Char
  | '.' :: '/' :: rest => rest
  | g => g

/-- Puts a glob below a base, which has slashes only; without a base nothing is done. -/
def anchor (base glob : List Char) : List Char :=
  if base.isEmpty || isAnchored glob then glob
  else escape (trimSlashes base) ++ '/' :: relative glob

end ScopedStyles.Glob
