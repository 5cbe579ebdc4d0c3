import ScopedStyles.Pattern.Expr

/-! # Regular expressions in simple form

What a regular expression amounts to once its flags and its spelling are settled.  A `Form` is built
by the functions `ofSet`, `ofCat`, `ofAlt` and `ofRepeated`, which leave out what has no effect:
neighbouring texts are one text, alternatives of single characters are one set, and alternatives
that begin alike share their beginning.  `Form.pattern` is what a form matches. -/

namespace ScopedStyles.Regex

open ScopedStyles.Pattern (Expr Look)

/-- A regular expression in simple form. -/
inductive Form where
  /-- Spans nothing, anywhere. -/
  | empty
  /-- One character after another, at least one. -/
  | text (codes : List Nat)
  /-- One character of a set, or one byte of it. -/
  | set (isBytes : Bool) (s : CodeSet)
  /-- Spans nothing, where a condition holds. -/
  | look (l : Look)
  /-- At least `lo` times, and at most `hi` times if that is given; a greedy repetition prefers more
  rounds to fewer. -/
  | repeated (lo : Nat) (hi : Option Nat) (isGreedy : Bool) (sub : Form)
  /-- A group whose extent would be reported. -/
  | group (sub : Form)
  | cat (subs : List Form)
  | alt (subs : List Form)
deriving Repr

namespace Form

/-! ### What a form matches -/

mutual

def pattern : Form → Pattern
  | .empty => .empty
  | .text codes => .cats (codes.map fun c => .atom (.set (.singleton c)))
  | .set _ s => .atom (.set s)
  | .look l => .atom (.look l)
  | .repeated lo hi _ sub => .repeated lo hi sub.pattern
  | .group sub => sub.pattern
  | .cat subs => allPattern subs
  | .alt subs => anyPattern subs

def allPattern : List Form → Pattern
  | [] => .empty
  | [f] => f.pattern
  | f :: g :: rest => .cat f.pattern (allPattern (g :: rest))

def anyPattern : List Form → Pattern
  | [] => .atom (.set .empty)
  | [f] => f.pattern
  | f :: g :: rest => .alt f.pattern (anyPattern (g :: rest))

end

/-! ### Lengths -/

mutual

/-- The least number of characters that a form spans.  There is none if the form needs a character
of the empty set, and an alternative without one makes that of the whole unknown. -/
def minLength? : Form → Option Nat
  | .empty => some 0
  | .text codes => some codes.length
  | .set _ s => if s.isEmpty then none else some 1
  | .look _ => some 0
  | .repeated lo _ _ sub => sub.minLength?.map (lo * ·)
  | .group sub => sub.minLength?
  | .cat subs => allMinLength? subs
  | .alt subs => anyMinLength? subs

def allMinLength? : List Form → Option Nat
  | [] => some 0
  | f :: rest => do return (← f.minLength?) + (← allMinLength? rest)

def anyMinLength? : List Form → Option Nat
  | [] => none
  | [f] => f.minLength?
  | f :: g :: rest => do return min (← f.minLength?) (← anyMinLength? (g :: rest))

end

/-- Whether every span of a form is known to hold a character. -/
def isNonEmpty (f : Form) : Bool := f.minLength?.any (0 < ·)

mutual

/-- Whether a form can span the empty text only. -/
def isZeroWidth : Form → Bool
  | .empty => true
  | .text _ => false
  | .set _ _ => false
  | .look _ => true
  | .repeated _ _ _ sub => sub.isZeroWidth
  | .group sub => sub.isZeroWidth
  | .cat subs => areZeroWidth subs
  | .alt subs => areZeroWidth subs

def areZeroWidth : List Form → Bool
  | [] => true
  | f :: rest => f.isZeroWidth && areZeroWidth rest

end

/-! ### Likeness -/

mutual

/-- Whether two forms are alike.  A group is like no other, since each has a number of its own. -/
def isLike : Form → Form → Bool
  | .empty, .empty => true
  | .text a, .text b => a = b
  | .set i s, .set j t => i = j && s = t
  | .look l, .look m => l = m
  | .repeated lo hi greedy e, .repeated lo' hi' greedy' f =>
      lo = lo' && hi = hi' && greedy = greedy' && e.isLike f
  | .cat es, .cat fs => areLike es fs
  | .alt es, .alt fs => areLike es fs
  | _, _ => false

def areLike : List Form → List Form → Bool
  | [], [] => true
  | e :: es, f :: fs => e.isLike f && areLike es fs
  | _, _ => false

end

/-- The forms at the beginning of one list that are like those at the beginning of another. -/
def sharedStart : List Form → List Form → List Form
  | e :: es, f :: fs => if e.isLike f then e :: sharedStart es fs else []
  | _, _ => []

/-! ### Building forms -/

/-- One character of a set.  The empty set is one of bytes however it is written. -/
def ofSet (isBytes : Bool) (s : CodeSet) : Form :=
  match s.single? with
  | some c => .text [c]
  | none => .set (isBytes || s.isEmpty) s

/-- The forms that a form has one after another. -/
def catParts : Form → List Form
  | .empty => []
  | .cat subs => subs
  | f => [f]

/-- Makes one text of neighbouring texts. -/
def joinTexts : List Form → List Form
  | [] => []
  | .text a :: rest =>
      match joinTexts rest with
      | .text b :: more => .text (a ++ b) :: more
      | more => .text a :: more
  | f :: rest => f :: joinTexts rest

/-- Forms one after another. -/
def ofCat (fs : List Form) : Form :=
  match joinTexts (fs.flatMap catParts) with
  | [] => .empty
  | [f] => f
  | parts => .cat parts

def altParts : Form → List Form
  | .alt subs => subs
  | f => [f]

def code? : Form → Option Nat
  | .text [c] => some c
  | _ => none

/-- The set of a form that is one of characters; bytes within ASCII are characters. -/
def charSet? : Form → Option CodeSet
  | .set isBytes s => if !isBytes || s.isBelow 128 then some s else none
  | _ => none

/-- The set of a form that is one of bytes; characters within ASCII are bytes. -/
def byteSet? : Form → Option CodeSet
  | .set isBytes s => if isBytes || s.isBelow 128 then some s else none
  | _ => none

def text? : Form → Option (List Nat)
  | .text codes => some codes
  | _ => none

/-- What a form consists of if it is a sequence. -/
def cat? : Form → Option (List Form)
  | .cat subs => some subs
  | _ => none

/-- The one set that alternatives amount to, if all are characters, all are sets of characters or
all are sets of bytes. -/
def commonSet? (fs : List Form) : Option Form :=
  ((fs.mapM code?).map fun cs => ofSet false (.ofList cs)).or
    (((fs.mapM charSet?).map fun ss => ofSet false (.unions ss)).or
      ((fs.mapM byteSet?).map fun ss => ofSet true (.unions ss)))

/-- Alternatives that share no beginning. -/
def choice (fs : List Form) : Form :=
  match fs.flatMap altParts with
  | [f] => f
  | fs => (commonSet? fs).getD (.alt fs)

/-- The beginning that sequences share; none if one of the forms is no sequence. -/
def commonStart (fs : List Form) : List Form :=
  match fs.mapM cat? with
  | some (first :: rest) => rest.foldl sharedStart first
  | _ => []

/-- What a sequence has behind its first forms. -/
def remainder (n : Nat) (f : Form) : Form := ofCat (f.catParts.drop n)

/-- Alternatives.  A beginning that all of them share stands once, in front of what differs. -/
def ofAlt (fs : List Form) : Form :=
  let fs := fs.flatMap altParts
  match commonStart fs with
  | [] => choice fs
  | start => ofCat (start ++ [choice (fs.map (remainder start.length))])

/-- A repetition.  More than one round is pointless for what is empty anyway, no round at all is
empty, and exactly one round is the form itself. -/
def ofRepeated (lo : Nat) (hi : Option Nat) (isGreedy : Bool) (sub : Form) : Form :=
  let (lo, hi) := if sub.isZeroWidth then (min lo 1, some (min (hi.getD 1) 1)) else (lo, hi)
  match lo, hi with
  | 0, some 0 => .empty
  | 1, some 1 => sub
  | lo, hi => .repeated lo hi isGreedy sub

end Form
end ScopedStyles.Regex
