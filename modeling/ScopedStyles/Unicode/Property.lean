import ScopedStyles.Unicode.Age
import ScopedStyles.Unicode.Binary
import ScopedStyles.Unicode.CaseFold
import ScopedStyles.Unicode.Category
import ScopedStyles.Unicode.Script
import ScopedStyles.Unicode.Segmentation
import ScopedStyles.Unicode.Version17

/-! # Character properties by name

What a pattern may ask for between `\p` and its braces: general categories, scripts and two-valued
properties by a name alone, or a property and a value.  Names match loosely (`loose`): case, blanks,
underscores, hyphens and a leading `is` do not count. -/

namespace ScopedStyles.Unicode

/-! ### Scalar values -/

/-- All characters: the code points that are not surrogates. -/
def scalars : CodeSet := ⟨[⟨0, 0xD7FF⟩, ⟨0xE000, 0x10FFFF⟩]⟩

/-- All characters but those of a set. -/
def complement (s : CodeSet) : CodeSet := scalars.diff s

/-! ### Names -/

/-- The loosely matched form of a name. -/
def loose (name : List Char) : String :=
  let squeeze (s : List Char) : List Char :=
    (s.filter fun c => c ≠ ' ' ∧ c ≠ '_' ∧ c ≠ '-' ∧ c.toNat < 128).map Char.toLower
  match name with
  | i :: s :: rest =>
      if i.toLower = 'i' ∧ s.toLower = 's' then
        let short := squeeze rest
        -- the short name of ISO_Comment is not the category `c`
        if short = ['c'] then "isc" else String.ofList short
      else String.ofList (squeeze name)
  | _ => String.ofList (squeeze name)

/-- The entry of a table that has a loosely matched name. -/
def find? (table : List Named) (name : String) : Option Named :=
  table.find? fun e => e.names.any fun n => loose n.toList = name

/-! ### Categories -/

/-- The categories that are unions of others, each with its names and the short names of its parts.
-/
def categoryGroups : List (List String × List String) := [
  (["LC", "Cased_Letter"], ["Lu", "Ll", "Lt"]),
  (["L", "Letter"], ["Lu", "Ll", "Lt", "Lm", "Lo"]),
  (["M", "Mark", "Combining_Mark"], ["Mn", "Mc", "Me"]),
  (["N", "Number"], ["Nd", "Nl", "No"]),
  (["P", "Punctuation", "punct"], ["Pc", "Pd", "Ps", "Pe", "Pi", "Pf", "Po"]),
  (["S", "Symbol"], ["Sm", "Sc", "Sk", "So"]),
  (["Z", "Separator"], ["Zs", "Zl", "Zp"])]

/-- The union of the categories with the given short names. -/
def inCategories (short : List String) : CodeSet :=
  CodeSet.unions ((categories.filter fun e => short.contains (e.names.headD "")).map Named.set)

/-- The characters in some assigned category. -/
def assigned : CodeSet := inCategories (categories.map fun e => e.names.headD "")

/-- What a name of a general category says: not such a name, a name without characters (surrogates
are no characters), or a set. -/
inductive CategoryAnswer
  | noName
  | noSet
  | set (s : CodeSet)

/-- Looks a general category up. -/
def category (name : String) : CategoryAnswer :=
  if name = "any" then .set scalars
  else if name = "assigned" then .set assigned
  else if name = "ascii" then .set (.ofRange 0 127)
  else if name = "cn" ∨ name = "unassigned" then .set (complement assigned)
  else if name = "cs" ∨ name = "surrogate" then .noSet
  else if name = "c" ∨ name = "other" then
    .set ((complement assigned).union (inCategories ["Cc", "Cf", "Co"]))
  else match find? categories name with
    | some e => .set e.set
    | none =>
        match categoryGroups.find? fun g => g.1.any fun n => loose n.toList = name with
        | some g => .set (inCategories g.2)
        | none => .noName

/-! ### Queries -/

/-- Why a query has no answer. -/
inductive PropertyFault
  | unknownProperty
  | unknownValue
deriving DecidableEq, Repr

/-- Script names without characters. -/
def emptyScripts : List String := ["zzzz", "unknown", "hrkt", "katakanaorhiragana"]

/-- The characters of a script. -/
def scriptNamed (name : String) : Except PropertyFault CodeSet :=
  match find? scripts name with
  | some e => .ok e.set
  | none => .error .unknownValue

/-- The characters that a script is used with. -/
def scriptExtensionNamed (name : String) : Except PropertyFault CodeSet :=
  match find? scripts name with
  | none => .error .unknownValue
  | some e =>
      match scriptExtensions.find? fun x => e.names.contains (x.names.headD "") with
      | some x => .ok x.set
      | none => .ok e.set

/-- The answer for a name alone: a two-valued property, a general category or a script. -/
def propertyNamed (name : List Char) : Except PropertyFault CodeSet :=
  let name := loose name
  let isShared := name = "cf" ∨ name = "sc" ∨ name = "lc"
  match (if isShared then none else find? binaryProperties name) with
  | some e => .ok e.set
  | none =>
      if ¬ isShared ∧ otherProperties.contains name then .error .unknownProperty
      else match category name with
        | .set s => .ok s
        | .noSet => .error .unknownValue
        | .noName =>
            if emptyScripts.contains name then .error .unknownValue
            else match find? scripts name with
              | some e => .ok e.set
              | none => .error .unknownProperty

/-- The characters that a version of the standard and the versions before it assigned. -/
def ageNamed (name : String) : Except PropertyFault CodeSet :=
  match ages.findIdx? fun e => e.names.any fun n => loose n.toList = name with
  | some i => .ok (CodeSet.unions ((ages.take (i + 1)).map Named.set))
  | none => .error .unknownValue

/-- The answer for a class of a table. -/
def classNamed (table : List Named) (name : String) : Except PropertyFault CodeSet :=
  match find? table name with
  | some e => .ok e.set
  | none => .error .unknownValue

/-- The answer for a property with a value. -/
def propertyValued (name value : List Char) : Except PropertyFault CodeSet :=
  let name := loose name
  let value := loose value
  if name = "gc" ∨ name = "generalcategory" then
    match category value with
    | .set s => .ok s
    | _ => .error .unknownValue
  else if name = "sc" ∨ name = "script" then scriptNamed value
  else if name = "scx" ∨ name = "scriptextensions" then scriptExtensionNamed value
  else if name = "age" then ageNamed value
  else if name = "gcb" ∨ name = "graphemeclusterbreak" then classNamed graphemeBreaks value
  else if name = "wb" ∨ name = "wordbreak" then classNamed wordBreaks value
  else if name = "sb" ∨ name = "sentencebreak" then classNamed sentenceBreaks value
  else if (find? binaryProperties name).isSome ∨ otherProperties.contains name then
    .error .unknownValue
  else .error .unknownProperty

/-! ### Sets with a name of their own in patterns -/

/-- A set of the table of two-valued properties. -/
def binaryNamed (name : String) : CodeSet :=
  match binaryProperties.find? fun e => e.names.contains name with
  | some e => e.set
  | none => .empty

/-- Letters and what counts as one. -/
def alphabetic : CodeSet := binaryNamed "Alphabetic"

def whiteSpace : CodeSet := binaryNamed "White_Space"

def decimalDigits : CodeSet := inCategories ["Nd"]

/-- What words consist of: letters, marks, digits, connectors and joiners. -/
def wordCharacters : CodeSet :=
  CodeSet.unions [
    alphabetic, inCategories ["Mn", "Mc", "Me", "Nd", "Pc"], binaryNamed "Join_Control"]

/-- What the name of a group may begin with, apart from punctuation: letters and what counts as
one. -/
def nameLetters : CodeSet := alphabetic.union Version17.alphabetic

/-- What the name of a group may go on with, apart from punctuation: letters, digits and other
numbers. -/
def nameCharacters : CodeSet :=
  CodeSet.unions [nameLetters, inCategories ["Nd", "Nl", "No"], Version17.numbers]

/-- Adds to a set all characters that differ from a member by case alone. -/
def closeCase (s : CodeSet) : CodeSet :=
  orbits.foldl
    (fun acc o =>
      if o.any s.contains then o.foldl (fun acc c => acc.union (.singleton c)) acc else acc)
    s

end ScopedStyles.Unicode
