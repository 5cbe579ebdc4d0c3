import ScopedStyles.Regex.ByteNetwork
import ScopedStyles.Regex.Form

/-! # Texts that a regular expression begins with

A `Lead` is a text that some spans of a form begin with, and a whole lead is such a span itself.
`Form.leads` lists the leads of all spans as long as they stay few and short.  Where a form amounts
to a few whole leads, or is a long list of texts, these are searched for as they are, and no machine
is built (`Form.isTextual`). -/

namespace ScopedStyles.Regex

/-- A text that some spans begin with. -/
structure Lead where
  bytes : List Nat
  /-- Whether the text is a span itself. -/
  isWhole : Bool
deriving DecidableEq, Repr

namespace Lead

/-- The lead of the empty span. -/
def blank : Lead := ⟨[], true⟩

/-- A beginning of a lead. -/
def cut (n : Nat) (a : Lead) : Lead := if n < a.bytes.length then ⟨a.bytes.take n, false⟩ else a

/-- The same text, but no span by itself. -/
def loose (a : Lead) : Lead := ⟨a.bytes, false⟩

/-- A lead with another one behind it, if it is whole. -/
def followedBy (a : Lead) (bs : List Lead) : List Lead :=
  if a.isWhole then bs.map fun b => ⟨a.bytes ++ b.bytes, b.isWhole⟩ else [a]

end Lead

/-- Leads in order of preference, or nothing if they are too many to list. -/
abbrev Leads := Option (List Lead)

namespace Leads

/-- How many leads are listed. -/
def most : Nat := 250

/-- How many bytes of a lead are listed. -/
def longest : Nat := 100

/-- How many members of a set and how many rounds of a repetition are followed. -/
def widest : Nat := 10

/-- The leads of the empty text. -/
def blank : Leads := some [.blank]

/-- Makes one lead of neighbours with the same text. -/
def settle : List Lead → List Lead
  | [] => []
  | a :: rest =>
      match settle rest with
      | [] => [a]
      | b :: more =>
          if a.bytes = b.bytes then ⟨a.bytes, a.isWhole && b.isWhole⟩ :: more else a :: b :: more

/-- Leads that are no spans by themselves. -/
def loosened (s : Leads) : Leads := s.map (·.map Lead.loose)

/-- Whether no lead goes on with what follows. -/
def areLoose (s : Leads) : Bool := s.all (·.all (!·.isWhole))

/-- The leads of one thing after another, which are unknown if there are too many of them. -/
def append (s t : Leads) : Leads :=
  match s, t with
  | none, _ => none
  | some as, t =>
      let joined : Leads :=
        match t.filter (as.length * ·.length ≤ most) with
        | some bs => some (settle (as.flatMap (·.followedBy bs)))
        | none => if as.any (·.bytes.isEmpty) then none else some (as.map Lead.loose)
      joined.map (·.map (.cut longest))

/-- The leads of alternatives.  If there are too many of them, their first four bytes may do. -/
def union (s t : Leads) : Leads := do
  let as ← s
  let bs ← t
  let isMuch := most < as.length + bs.length
  let as := if isMuch then settle (as.map (.cut 4)) else as
  let bs := if isMuch then settle (bs.map (.cut 4)) else bs
  if most < as.length + bs.length then none else some (settle (as ++ bs))

/-- The leads after some more rounds. -/
def rounds (sub : Leads) : Nat → Leads → Leads
  | 0, s => s
  | n + 1, s => if s.areLoose then s else rounds sub n (s.append sub)

/-- The leads of a repetition. -/
def repeated (lo : Nat) (hi : Option Nat) (isGreedy : Bool) (sub : Leads) : Leads :=
  if lo = 0 then
    let sub := if hi = some 1 then sub else sub.loosened
    if isGreedy then sub.union blank else union blank sub
  else
    let s := rounds sub (min lo widest) blank
    if hi = some lo ∧ lo ≤ widest then s else s.loosened

/-- The leads of a set. -/
def ofSet (s : CodeSet) : Leads :=
  if widest < s.ranges.foldl (fun n r => n + r.size) 0 then none
  else some (s.ranges.flatMap fun r =>
    (List.range' r.lo r.size).map fun c => ⟨Utf8.encode c, true⟩)

/-! ### Whether leads are all there is to know -/

/-- Leaves out leads that begin with an earlier one, which is preferred to them. -/
def minimal (as : List Lead) : List Lead :=
  as.foldl (fun kept a =>
    if kept.any (·.bytes.isPrefixOf a.bytes) then kept else kept ++ [a]) []

/-- The bytes that two texts share at their beginning. -/
def sharedBytes : List Nat → List Nat → List Nat
  | a :: as, b :: bs => if a = b then a :: sharedBytes as bs else []
  | _, _ => []

/-- The bytes that all leads share at their beginning. -/
def commonBytes : List Lead → List Nat
  | [] => []
  | a :: rest => rest.foldl (fun bytes b => sharedBytes bytes b.bytes) a.bytes

/-- Bytes that are frequent in most texts. -/
def frequentBytes : CodeSet :=
  ⟨[⟨10, 10⟩, ⟨13, 13⟩, ⟨32, 32⟩, ⟨40, 41⟩, ⟨44, 50⟩, ⟨57, 58⟩, ⟨95, 95⟩, ⟨97, 105⟩, ⟨108, 112⟩,
    ⟨114, 118⟩, ⟨120, 121⟩, ⟨124, 124⟩, ⟨128, 132⟩, ⟨144, 144⟩, ⟨177, 177⟩, ⟨181, 183⟩,
    ⟨185, 189⟩, ⟨191, 255⟩]⟩

/-- How many bytes of the leads a search looks for, if that is limited: a rare byte at the beginning
is enough, and so is a long common beginning. -/
def sought? (total : Nat) (kept : List Lead) : Option Nat :=
  let bytes := commonBytes kept
  if 1 < total ∧ bytes.length ≤ 3 ∧ bytes.head?.any (!frequentBytes.contains ·) then some 1
  else if 4 < bytes.length ∨ (1 < bytes.length ∧ 16 < kept.length) then some bytes.length
  else none

/-- Whether a search for the leads finds the spans themselves. -/
def areExact (as : List Lead) : Bool :=
  let kept := minimal as
  !as.isEmpty && as.all (!·.bytes.isEmpty) &&
    kept.all fun a => a.isWhole && (sought? as.length kept).all (a.bytes.length ≤ ·)

end Leads

/-! ### Forms -/

namespace Form

def bytesOf (codes : List Nat) : List Nat := codes.flatMap Utf8.encode

mutual

def leads : Form → Leads
  | .empty => .blank
  | .text codes => some [Lead.cut Leads.longest ⟨bytesOf codes, true⟩]
  | .set _ s => .ofSet s
  | .look _ => .blank
  | .repeated lo hi isGreedy sub => .repeated lo hi isGreedy sub.leads
  | .group sub => sub.leads
  | .cat subs => allLeads .blank subs
  | .alt subs => anyLeads (some []) subs

/-- The leads of something with forms behind it, one after another. -/
def allLeads (s : Leads) : List Form → Leads
  | [] => s
  | f :: rest => if s.areLoose then s else allLeads (s.append f.leads) rest

/-- The leads of something and of further alternatives. -/
def anyLeads (s : Leads) : List Form → Leads
  | [] => s
  | f :: rest => anyLeads (s.union f.leads) rest

end

mutual

/-- Whether a form has no conditions and no groups. -/
def isPlain : Form → Bool
  | .empty => true
  | .text _ => true
  | .set _ _ => true
  | .look _ => false
  | .repeated _ _ _ sub => sub.isPlain
  | .group _ => false
  | .cat subs => arePlain subs
  | .alt subs => arePlain subs

def arePlain : List Form → Bool
  | [] => true
  | f :: rest => f.isPlain && arePlain rest

end

/-- Whether a form is a list of so many texts that a search for all of them at once pays. -/
def isTextList : Form → Bool
  | .alt subs => (subs.mapM text?).isSome && 3000 ≤ subs.length
  | _ => false

/-- Whether a form is searched for as texts, without a machine. -/
def isTextual (f : Form) : Bool := f.isPlain && (f.leads.any Leads.areExact || f.isTextList)

end Form
end ScopedStyles.Regex
