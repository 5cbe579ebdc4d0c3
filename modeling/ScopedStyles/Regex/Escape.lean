import ScopedStyles.Regex.Cursor

/-! # Reading escapes and other single items

What a pattern puts in one place: a character, an escape, a dot or an anchor. -/

namespace ScopedStyles.Regex

open Reading

/-! ### Numbers -/

/-- Skips blanks, whether or not the pattern is free-spacing. -/
def skipBlanks : Nat → Reading Unit
  | 0 => return
  | fuel + 1 => do
      match ← peek? with
      | some c =>
          if isBlank c then
            let _ ← bump
            skipBlanks fuel
      | none => return

/-- Reads decimal digits, last one first. -/
def decimalDigits : Nat → List Char → Reading (List Char)
  | 0, digits => return digits
  | fuel + 1, digits => do
      match ← peek? with
      | some c =>
          if c.isDigit then
            let _ ← bumpAndSkip
            decimalDigits fuel (c :: digits)
          else return digits
      | none => return digits

/-- The outcome of reading a count; whether a fault matters is up to what follows. -/
inductive Count
  | value (n : Nat)
  | fault (kind : FaultKind) (span : Span)

def left : Reading Nat := return (← get).rest.length

/-- Reads a count of at most 32 bits with blanks around it. -/
def readCount : Reading Count := do
  skipBlanks (← left)
  let start ← position
  let digits ← decimalDigits (← left) []
  let span : Span := ⟨start, ← position⟩
  skipBlanks (← left)
  if digits.isEmpty then return .fault .countEmpty span
  else
    let n := digits.foldr (fun c n => n * 10 + (c.toNat - 48)) 0
    return if n < UInt32.size then .value n else .fault .decimalInvalid span

/-! ### Hexadecimal escapes -/

/-- The number of a hexadecimal digit. -/
def hexValue? (c : Char) : Option Nat :=
  if '0' ≤ c ∧ c ≤ '9' then some (c.toNat - 48)
  else if 'a' ≤ c ∧ c ≤ 'f' then some (c.toNat - 87)
  else if 'A' ≤ c ∧ c ≤ 'F' then some (c.toNat - 55)
  else none

/-- The character with a number, if there is one. -/
def charOf? (n : Nat) : Option Char := if n.isValidChar then some (Char.ofNat n) else none

def hexDigit : Reading Nat := do
  match ← peek? with
  | none => fail .escapeIncomplete (← here)
  | some c =>
      match hexValue? c with
      | some d => return d
      | none => fail .hexDigit (← nextSpan)

/-- Reads the digits after the first one, up to a fixed number. -/
def hexDigits : Nat → Nat → Reading Nat
  | 0, n => return n
  | k + 1, n => do
      if ← bumpAndSkip then
        let d ← hexDigit
        hexDigits k (n * 16 + d)
      else fail .escapeIncomplete (← here)

/-- Reads an escape with a fixed number of digits. -/
def hexFixed (start : Position) (count : Nat) (isByte : Bool) : Reading Literal := do
  let first ← position
  let n ← hexDigits (count - 1) (← hexDigit)
  let _ ← bumpAndSkip
  let stop ← position
  match charOf? n with
  | some c => return ⟨⟨start, stop⟩, c, isByte⟩
  | none => fail .hexInvalid ⟨first, stop⟩

/-- Reads digits up to a closing brace; `digits` are those so far, last one first. -/
def bracedDigits : Nat → List Nat → Reading (List Nat)
  | 0, digits => return digits
  | fuel + 1, digits => do
      if ← bumpAndSkip then
        if (← peek?) = some '\x7d' then return digits
        else bracedDigits fuel ((← hexDigit) :: digits)
      else return digits

/-- Reads an escape with digits in braces. -/
def hexBraced (start : Position) : Reading Literal := do
  let brace ← position
  let first := (← nextSpan).stop
  let digits ← bracedDigits (← left) []
  if ← atEnd then fail .escapeIncomplete ⟨brace, ← position⟩
  let last ← position
  let _ ← bumpAndSkip
  let stop ← position
  if digits.isEmpty then fail .hexEmpty ⟨brace, stop⟩
  match charOf? (digits.foldr (fun d n => n * 16 + d) 0) with
  | some c => return ⟨⟨start, stop⟩, c, false⟩
  | none => fail .hexInvalid ⟨first, last⟩

/-- Reads an escape at its letter, which fixes the number of digits. -/
def hexEscape (start : Position) (letter : Char) : Reading Literal := do
  if ← bumpAndSkip then
    if (← peek?) = some '\x7b' then hexBraced start
    else match letter with
      | 'x' => hexFixed start 2 true
      | 'u' => hexFixed start 4 false
      | _ => hexFixed start 8 false
  else fail .escapeIncomplete (← here)

/-! ### Properties -/

/-- Reads a name up to a closing brace; `name` is what was read, last character first. -/
def bracedName : Nat → List Char → Reading (List Char)
  | 0, name => return name.reverse
  | fuel + 1, name => do
      if ← bumpAndSkip then
        match ← peek? with
        | some '\x7d' => return name.reverse
        | some c => bracedName fuel (c :: name)
        | none => return name.reverse
      else return name.reverse

/-- Splits a text at the first occurrence of a separator. -/
def splitAt? (separator : List Char) : List Char → Option (List Char × List Char)
  | [] => none
  | c :: rest =>
      if separator.isPrefixOf (c :: rest) then some ([], (c :: rest).drop separator.length)
      else (splitAt? separator rest).map fun p => (c :: p.1, p.2)

/-- The query that a name in braces writes, and whether it is a negation. -/
def queryOf (name : List Char) : PropertyQuery × Bool :=
  match splitAt? ['!', '='] name with
  | some (property, value) => (.valued property value, true)
  | none =>
      match (splitAt? [':'] name).or (splitAt? ['='] name) with
      | some (property, value) => (.valued property value, false)
      | none => (.named name, false)

/-- Reads a property class at its letter. -/
def propertyClass (start : Position) (negated : Bool) : Reading Node := do
  if ← bumpAndSkip then
    match ← peek? with
    | some '\x7b' =>
        let name ← bracedName (← left) []
        if ← atEnd then fail .escapeIncomplete (← here)
        let _ ← bump
        let (query, isOpposite) := queryOf name
        return .property ⟨start, ← position⟩ query (negated != isOpposite)
    | some '\\' => fail .propertyInvalid (← nextSpan)
    | some c =>
        let _ ← bumpAndSkip
        return .property ⟨start, ← position⟩ (.named [c]) negated
    | none => fail .escapeIncomplete (← here)
  else fail .escapeIncomplete (← here)

/-! ### Word edges with a name -/

/-- Whether a character can be in the name of a word edge. -/
def isEdgeChar (c : Char) : Bool := c.isAlpha || c = '-'

/-- Reads the name of a word edge, last character first. -/
def edgeName : Nat → List Char → Reading (List Char)
  | 0, name => return name
  | fuel + 1, name => do
      match ← peek? with
      | some c =>
          if isEdgeChar c then
            let _ ← bumpAndSkip
            edgeName fuel (c :: name)
          else return name
      | none => return name

/-- Reads the braces after an edge that began at `start`, if they hold a name and not a count. -/
def namedEdge? (start : Position) : Reading (Option Assertion) := do
  let before ← get
  if ← bumpAndSkip then
    let first ← position
    if (← peek?).all fun c => !isEdgeChar c then
      set before
      return none
    else
      let name ← edgeName (← left) []
      if (← peek?) ≠ some '\x7d' then fail .wordEdgeUnclosed ⟨before.pos, ← position⟩
      let last ← position
      let _ ← bump
      match String.ofList name.reverse with
      | "start" => return some .wordStart
      | "end" => return some .wordStop
      | "start-half" => return some .wordStartHalf
      | "end-half" => return some .wordStopHalf
      | _ => fail .wordEdgeUnknown ⟨first, last⟩
  else fail .wordEdgeIncomplete ⟨start, ← position⟩

/-! ### Escapes -/

/-- Characters with a meaning of their own somewhere in patterns. -/
def isMeta (c : Char) : Bool :=
  c ∈ ['\\', '.', '+', '*', '?', '(', ')', '|', '[', ']', '\x7b', '\x7d', '^', '$', '#', '&', '-',
    '~']

/-- Other characters that may be escaped without need. -/
def isEscapable (c : Char) : Bool :=
  c.toNat < 128 && !(c.isAlphanum || c = '<' || c = '>')

def control? (c : Char) : Option Char :=
  match c with
  | 'a' => some '\x07'
  | 'f' => some '\x0c'
  | 't' => some '\t'
  | 'n' => some '\n'
  | 'r' => some '\r'
  | 'v' => some '\x0b'
  | _ => none

/-- The class of a letter, and whether it is negated. -/
def perlClass? (c : Char) : Option (PerlKind × Bool) :=
  match c with
  | 'd' => some (.digit, false)
  | 's' => some (.space, false)
  | 'w' => some (.word, false)
  | 'D' => some (.digit, true)
  | 'S' => some (.space, true)
  | 'W' => some (.word, true)
  | _ => none

/-- The condition of a letter. -/
def assertion? (c : Char) : Option Assertion :=
  match c with
  | 'A' => some .textStart
  | 'z' => some .textStop
  | 'b' => some .edge
  | 'B' => some .notEdge
  | '<' => some .wordStart
  | '>' => some .wordStop
  | _ => none

/-- Reads the rest of an escape whose letter `c` has been stepped over. -/
def shortEscape (start : Position) (c : Char) : Reading Node := do
  let span : Span := ⟨start, ← position⟩
  if isMeta c || isEscapable c then return .literal ⟨span, c, false⟩
  else match control? c, assertion? c with
    | some d, _ => return .literal ⟨span, d, false⟩
    | none, some .edge =>
        if (← peek?) = some '\x7b' then
          match ← namedEdge? start with
          | some kind => return .assertion ⟨start, ← position⟩ kind
          | none => return .assertion span .edge
        else return .assertion span .edge
    | none, some kind => return .assertion span kind
    | none, none => fail .escapeUnknown span

/-- Reads an escape at its backslash. -/
def escape : Reading Node := do
  let start ← position
  let _ ← bump
  match ← peek? with
  | none => fail .escapeIncomplete ⟨start, ← position⟩
  | some c =>
      if c.isDigit then fail .backreference ⟨start, (← nextSpan).stop⟩
      else if c = 'x' || c = 'u' || c = 'U' then return .literal (← hexEscape start c)
      else if c = 'p' || c = 'P' then propertyClass start (c = 'P')
      else
        let _ ← bump
        match perlClass? c with
        | some (kind, negated) => return .perl ⟨start, ← position⟩ kind negated
        | none => shortEscape start c

def single (c : Char) : Reading Node := do
  if c = '\\' then escape
  else
    let span ← nextSpan
    let _ ← bump
    match c with
    | '.' => return .dot span
    | '^' => return .assertion span .lineStart
    | '$' => return .assertion span .lineStop
    | _ => return .literal ⟨span, c, false⟩

end ScopedStyles.Regex
