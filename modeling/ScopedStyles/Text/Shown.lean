import ScopedStyles.Unicode.Property

/-! # Text shown in messages

A message shows a foreign text between double quotes.  Quotes, backslashes and the common controls
get short escapes; every other character that would not be seen on its own (controls, formats,
unassigned and private characters, blanks other than the space, marks that join to their neighbour,
fillers) is shown by its number. -/

namespace ScopedStyles.Shown

/-- The characters that are not shown as they are. -/
def hidden : CodeSet :=
  let unassigned := (Unicode.complement Unicode.assigned).diff Unicode.Version17.characters
  let controls := Unicode.inCategories ["Cc", "Cf", "Co", "Zl", "Zp", "Zs"]
  let joining := (Unicode.binaryNamed "Grapheme_Extend").diff (Unicode.inCategories ["Lm"])
  let unseen := Unicode.binaryNamed "Default_Ignorable_Code_Point"
  CodeSet.unions [unassigned, controls, joining, Unicode.Version17.extenders, unseen]
    |>.diff (.singleton 32)

/-- A character between the quotes. -/
def escape (c : Char) : List Char :=
  if c = '"' then ['\\', '"']
  else if c = '\\' then ['\\', '\\']
  else if c = '\n' then ['\\', 'n']
  else if c = '\r' then ['\\', 'r']
  else if c = '\t' then ['\\', 't']
  else if c.toNat = 0 then ['\\', '0']
  else if 32 ≤ c.toNat ∧ c.toNat < 127 then [c]
  else if hidden.contains c.toNat then
    ['\\', 'u', '\x7b'] ++ Nat.toDigits 16 c.toNat ++ ['\x7d']
  else [c]

/-- A text between quotes. -/
def quoted (s : String) : List Char := '"' :: s.toList.flatMap escape ++ ['"']

end ScopedStyles.Shown
