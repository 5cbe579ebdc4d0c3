import ScopedStyles.Regex.Fault

/-! # Regular expressions as written

The syntax tree of a regular expression.  Every node knows its place in the pattern, for the sake of
reports about faults that show only later. -/

namespace ScopedStyles.Regex

/-- One character, however it is written; `isByte` tells the form `\x` with two digits, which stands
for a byte where characters are bytes. -/
structure Literal where
  span : Span
  char : Char
  isByte : Bool
deriving DecidableEq, Repr

inductive Flag
  | caseless
  | multiLine
  | dotAll
  | swapGreed
  | unicode
  | crlf
  | freeSpacing
deriving DecidableEq, Repr

/-- Flags that are set or cleared. -/
abbrev Flags := List (Flag × Bool)

/-- The classes with a letter of their own. -/
inductive PerlKind
  | digit
  | space
  | word
deriving DecidableEq, Repr

/-- The classes with a name between colons. -/
inductive AsciiKind
  | alnum
  | alpha
  | ascii
  | blank
  | cntrl
  | digit
  | graph
  | lower
  | print
  | punct
  | space
  | upper
  | word
  | xdigit
deriving DecidableEq, Repr

/-- What a property class asks for. -/
inductive PropertyQuery
  | named (name : List Char)
  | valued (name value : List Char)
deriving DecidableEq, Repr

inductive SetOperation
  | inter
  | diff
  | symmDiff
deriving DecidableEq, Repr

inductive Assertion
  | lineStart
  | lineStop
  | textStart
  | textStop
  | edge
  | notEdge
  | wordStart
  | wordStop
  | wordStartHalf
  | wordStopHalf
deriving DecidableEq, Repr

/-- What stands in a class between brackets. -/
inductive ClassNode where
  | empty (span : Span)
  | literal (l : Literal)
  | range (span : Span) (first last : Literal)
  | ascii (span : Span) (kind : AsciiKind) (negated : Bool)
  | property (span : Span) (query : PropertyQuery) (negated : Bool)
  | perl (span : Span) (kind : PerlKind) (negated : Bool)
  | bracketed (span : Span) (negated : Bool) (body : ClassNode)
  | union (span : Span) (items : List ClassNode)
  | operation (span : Span) (op : SetOperation) (left right : ClassNode)
deriving Repr

def ClassNode.span : ClassNode → Span
  | empty s | range s .. | ascii s .. | property s .. | perl s .. | bracketed s ..
  | union s _ | operation s .. => s
  | literal l => l.span

inductive GroupKind
  /-- A group whose extent would be reported. -/
  | capture
  /-- A group with flags of its own. -/
  | plain (flags : Flags)
deriving DecidableEq, Repr

/-- A regular expression. -/
inductive Node where
  | empty (span : Span)
  | flags (span : Span) (flags : Flags)
  | literal (l : Literal)
  | dot (span : Span)
  | assertion (span : Span) (kind : Assertion)
  | property (span : Span) (query : PropertyQuery) (negated : Bool)
  | perl (span : Span) (kind : PerlKind) (negated : Bool)
  | bracketed (span : Span) (negated : Bool) (body : ClassNode)
  | repetition (span : Span) (lo : Nat) (hi : Option Nat) (isModest : Bool) (sub : Node)
  | group (span : Span) (kind : GroupKind) (sub : Node)
  | alternation (span : Span) (subs : List Node)
  | concat (span : Span) (subs : List Node)
deriving Repr

def Node.span : Node → Span
  | empty s | flags s _ | dot s | assertion s _ | property s .. | perl s .. | bracketed s ..
  | repetition s .. | group s .. | alternation s _ | concat s _ => s
  | literal l => l.span

def Node.sequence (span : Span) : List Node → Node
  | [] => empty span
  | [n] => n
  | ns => concat span ns

/-! ### Nesting -/

/-- How deep brackets, groups and operators may nest. -/
def nestLimit : Nat := 250

/-- Goes one level deeper, if that is allowed. -/
def deeper (depth : Nat) (span : Span) : Except Fault Nat :=
  if depth + 1 ≤ nestLimit then .ok (depth + 1) else .error ⟨.tooDeep nestLimit, span, none⟩

mutual

/-- Checks the nesting inside a class, from the outside in. -/
def ClassNode.checkNesting (depth : Nat) : ClassNode → Except Fault Unit
  | .bracketed span _ body => do body.checkNesting (← deeper depth span)
  | .union span items => do ClassNode.checkNestingAll (← deeper depth span) items
  | .operation span _ left right => do
      let depth ← deeper depth span
      left.checkNesting depth
      right.checkNesting depth
  | _ => .ok ()

/-- Checks the nesting of nodes from left to right. -/
def ClassNode.checkNestingAll (depth : Nat) : List ClassNode → Except Fault Unit
  | [] => .ok ()
  | n :: rest => do
      n.checkNesting depth
      ClassNode.checkNestingAll depth rest

end

mutual

/-- Checks the nesting of a regular expression, from the outside in. -/
def Node.checkNesting (depth : Nat) : Node → Except Fault Unit
  | .bracketed span _ body => do body.checkNesting (← deeper depth span)
  | .repetition span _ _ _ sub => do sub.checkNesting (← deeper depth span)
  | .group span _ sub => do sub.checkNesting (← deeper depth span)
  | .alternation span subs => do Node.checkNestingAll (← deeper depth span) subs
  | .concat span subs => do Node.checkNestingAll (← deeper depth span) subs
  | _ => .ok ()

/-- Checks the nesting of nodes from left to right. -/
def Node.checkNestingAll (depth : Nat) : List Node → Except Fault Unit
  | [] => .ok ()
  | n :: rest => do
      n.checkNesting depth
      Node.checkNestingAll depth rest

end

end ScopedStyles.Regex
