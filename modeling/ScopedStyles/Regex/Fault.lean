import ScopedStyles.Regex.Position

/-! # Faults of regular expressions

Why a text is no regular expression, where the fault is, and the report that shows the place in the
pattern. -/

namespace ScopedStyles.Regex

inductive FaultKind
  | classEscape
  | classRangeReversed
  | classRangeBoundary
  | classUnclosed
  | decimalInvalid
  | hexEmpty
  | hexInvalid
  | hexDigit
  | escapeIncomplete
  | escapeUnknown
  | flagNegationDangling
  | flagDuplicate
  | flagNegationRepeated
  | flagIncomplete
  | flagUnknown
  | nameDuplicate
  | nameEmpty
  | nameInvalid
  | nameUnclosed
  | groupUnclosed
  | groupUnopened
  | tooDeep (limit : Nat)
  | countReversed
  | countEmpty
  | countUnclosed
  | repetitionMissing
  | wordEdgeUnclosed
  | wordEdgeUnknown
  | wordEdgeIncomplete
  | propertyInvalid
  | backreference
  | lookaround
  | unicodeNotAllowed
  | invalidUtf8
  | propertyUnknown
  | propertyValueUnknown
deriving DecidableEq, Repr

def FaultKind.message : FaultKind → String
  | classEscape => "invalid escape sequence found in character class"
  | classRangeReversed => "invalid character class range, the start must be <= the end"
  | classRangeBoundary => "invalid range boundary, must be a literal"
  | classUnclosed => "unclosed character class"
  | decimalInvalid => "decimal literal invalid"
  | hexEmpty => "hexadecimal literal empty"
  | hexInvalid => "hexadecimal literal is not a Unicode scalar value"
  | hexDigit => "invalid hexadecimal digit"
  | escapeIncomplete => "incomplete escape sequence, reached end of pattern prematurely"
  | escapeUnknown => "unrecognized escape sequence"
  | flagNegationDangling => "dangling flag negation operator"
  | flagDuplicate => "duplicate flag"
  | flagNegationRepeated => "flag negation operator repeated"
  | flagIncomplete => "expected flag but got end of regex"
  | flagUnknown => "unrecognized flag"
  | nameDuplicate => "duplicate capture group name"
  | nameEmpty => "empty capture group name"
  | nameInvalid => "invalid capture group character"
  | nameUnclosed => "unclosed capture group name"
  | groupUnclosed => "unclosed group"
  | groupUnopened => "unopened group"
  | tooDeep limit =>
      "exceed the maximum number of nested parentheses/brackets ("
        ++ String.ofList (Nat.toDigits 10 limit) ++ ")"
  | countReversed => "invalid repetition count range, the start must be <= the end"
  | countEmpty => "repetition quantifier expects a valid decimal"
  | countUnclosed => "unclosed counted repetition"
  | repetitionMissing => "repetition operator missing expression"
  | wordEdgeUnclosed =>
      "special word boundary assertion is either unclosed or contains an invalid character"
  | wordEdgeUnknown =>
      "unrecognized special word boundary assertion, valid choices are: "
        ++ "start, end, start-half or end-half"
  | wordEdgeIncomplete =>
      "found either the beginning of a special word boundary or a bounded repetition on a \\b "
        ++ "with an opening brace, but no closing brace"
  | propertyInvalid => "invalid Unicode character class"
  | backreference => "backreferences are not supported"
  | lookaround => "look-around, including look-ahead and look-behind, is not supported"
  | unicodeNotAllowed => "Unicode not allowed here"
  | invalidUtf8 => "pattern can match invalid UTF-8"
  | propertyUnknown => "Unicode property not found"
  | propertyValueUnknown => "Unicode property value not found"

/-- A fault with its place; some faults point at a second place, which was there before. -/
structure Fault where
  kind : FaultKind
  span : Span
  earlier : Option Span
deriving DecidableEq, Repr

/-! ### The report -/

/-- The lines of a text, without the ends of the lines; after a last line feed there is no further
line. -/
def linesFrom (line : List Char) : List Char → List (List Char)
  | [] => if line.isEmpty then [] else [line.reverse]
  | c :: rest =>
      if c = '\n' then
        (match line with
          | '\r' :: before => before.reverse
          | _ => line.reverse) :: linesFrom [] rest
      else linesFrom (c :: line) rest

def lines (pattern : List Char) : List (List Char) := linesFrom [] pattern

/-- Carets under some parts of one line, which come in order; `column` columns are behind. -/
def carets (column : Nat) : List Span → List Char
  | [] => []
  | s :: rest =>
      let gap := s.start.column - 1 - column
      let width := max 1 (s.stop.column - s.start.column)
      List.replicate gap ' ' ++ List.replicate width '^' ++ carets (column + gap + width) rest

/-- The places of a fault in order. -/
def Fault.spans (f : Fault) : List Span :=
  match f.earlier with
  | none => [f.span]
  | some e => if e.isBefore f.span then [e, f.span] else [f.span, e]

/-- A number at the right of a column. -/
def padded (width n : Nat) : List Char :=
  let digits := Nat.toDigits 10 n
  List.replicate (width - digits.length) ' ' ++ digits

/-- The lines from number `n` on with carets under those parts that lie on one line; `width` is the
width of line numbers, and without line numbers the lines are indented. -/
def notated (spans : List Span) (width : Nat) : Nat → List (List Char) → List Char
  | _, [] => []
  | n, line :: rest =>
      let label := if width = 0 then List.replicate 4 ' ' else padded width n ++ [':', ' ']
      let marks := spans.filter fun s => s.isOneLine && s.start.line = n
      label ++ line ++ ['\n']
        ++ (if marks.isEmpty then []
            else List.replicate label.length ' ' ++ carets 0 marks ++ ['\n'])
        ++ notated spans width (n + 1) rest

/-- Where a part that covers several lines begins and ends. -/
def spanNote (s : Span) : List Char :=
  let number (n : Nat) := Nat.toDigits 10 n
  "on line ".toList ++ number s.start.line ++ " (column ".toList ++ number s.start.column
    ++ ") through line ".toList ++ number s.stop.line ++ " (column ".toList
    ++ number (s.stop.column - 1) ++ [')']

/-- The report of a fault in a pattern. -/
def Fault.report (f : Fault) (pattern : List Char) : String :=
  let rows := lines pattern
  let rowCount := rows.length + if pattern.getLast? = some '\n' then 1 else 0
  let width := if rowCount ≤ 1 then 0 else (Nat.toDigits 10 rowCount).length
  let body := notated f.spans width 1 rows
  let framed :=
    if pattern.contains '\n' then
      let rule := List.replicate 79 '~' ++ ['\n']
      let notes := f.spans.filter fun s => !s.isOneLine
      rule ++ body ++ rule ++ notes.flatMap fun s => spanNote s ++ ['\n']
    else body
  String.ofList ("regex parse error:\n".toList ++ framed ++ "error: ".toList
    ++ f.kind.message.toList)

end ScopedStyles.Regex
