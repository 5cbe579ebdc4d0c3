import ScopedStyles.Unicode.RunTable

/-! # What version 17 added

Classes in patterns follow version 16 of the standard, and so do the other tables.  Names of groups
and texts shown in messages follow version 17, whose new characters are listed here. -/

namespace ScopedStyles.Unicode.Version17

/-- The new characters. -/
def characters : CodeSet := Runs.set
  "88f 3cc 7f df2+e 2+b 5d5 ad4 7c37+1 2 1 1c 53d1+f 1bd+1 36+6 b71+19 56b+2 8+8 21+1 c64+7
   248+2b 4+9 50b6+18 2+18 11e+4 1801+7 509+15 61+72 3f07+2 1bd+16 f+10 17cf+1e 1+15 8+1 fd8
   9e+3 155+8 17b+3 32 3 39 4 1c 4 10a bb3f+5 1762+b 5502+10c9"

/-- The new letters and what counts as one. -/
def alphabetic : CodeSet := Runs.set
  "88f 3cc 7f 9af1+1 2 1 1c 614e+19 56b+2 32+1 c64+7 248+2b 50c4+18 2+18 11e+4 1801+7 509+15
   61+72 58cd+1e 1+15 8+1 d03a+5 1762+b 5502+10c9"

/-- The new digits and other numbers. -/
def numbers : CodeSet := Runs.set
  "11de0+9 520a+2"

/-- The new characters that belong to the character before them. -/
def extenders : CodeSet := Runs.set
  "1acf+e 2+b f40e+1 c64 1+2 1 cb7c 2 7+1 5"

end ScopedStyles.Unicode.Version17
