import ScopedStyles.Regex.Meaning
import ScopedStyles.Regex.Reader
import ScopedStyles.Regex.Size

/-! # Compiling regular expressions

From text to pattern: reading, meaning, and the size limit, each of which can refuse the text. -/

namespace ScopedStyles.Regex

/-- Why a text is refused. -/
inductive Refusal
  | fault (f : Fault)
  | tooBig
deriving DecidableEq, Repr

def Refusal.message (text : List Char) : Refusal → String
  | fault f => f.report text
  | tooBig => tooBigMessage

/-- The pattern that a text writes. -/
def compile (text : List Char) : Except Refusal Pattern := do
  let node ← (parse text).mapError .fault
  let (form, _) ← (node.form .start).mapError .fault
  if form.isTooBig then throw .tooBig else return form.pattern

end ScopedStyles.Regex
