import ScopedStyles.Bytes.Base64
import ScopedStyles.Token

/-! # Scope imports

A module asks for its own token by importing from `@miniwind/scope`.  The import clause, quotes
included, is exchanged for an inline `data:` module whose default export returns the token.

Source text is read as a list of `Piece`s: import clauses, and single characters of anything else
(`pieces`).  Writing the pieces back gives the text (`Piece.source`); exchanging every clause gives
the text with inline modules (`exchange`). -/

namespace ScopedStyles.ScopeImport

/-- The specifier that stands for a module's own scope. -/
def specifier : String := "@miniwind/scope"

/-- The two kinds of quotes around a specifier. -/
inductive Quote
  | single
  | double
deriving DecidableEq, Repr

def Quote.char : Quote → Char
  | single => '\''
  | double => '"'

/-- The import clause in a kind of quotes. -/
def clause (q : Quote) : List Char := " from ".toList ++ q.char :: specifier.toList ++ [q.char]

def clauseLength : Nat := (clause .single).length

/-- The clause that a text starts with. -/
def clauseAt? (s : List Char) : Option Quote :=
  if (clause .single).isPrefixOf s then some .single
  else if (clause .double).isPrefixOf s then some .double
  else none

/-- Whether a text has an import clause anywhere. -/
def occurs : List Char → Bool
  | [] => false
  | c :: s => (clauseAt? (c :: s)).isSome || occurs s

/-- Whether source code imports its scope. -/
def isPresent (code : String) : Bool := occurs code.toList

/-! ### The inline module -/

/-- The source of the module that stands in for the specifier. -/
def moduleSource (t : Token) : String :=
  String.ofList ("export default () => \"".toList ++ t.digits ++ ['"'])

/-- The address that carries the inline module. -/
def moduleUrl (t : Token) : String :=
  String.ofList ("data:text/javascript;base64,".toList
    ++ Base64.encode (Utf8.bytes (moduleSource t).toList))

/-- The clause that imports the inline module. -/
def inlineClause (t : Token) : List Char := " from '".toList ++ (moduleUrl t).toList ++ ['\'']

/-! ### Exchanging clauses -/

inductive Piece
  | kept (c : Char)
  | clause (q : Quote)
deriving DecidableEq, Repr

/-- The text that a piece was read from. -/
def Piece.source : Piece → List Char
  | kept c => [c]
  | clause q => ScopeImport.clause q

/-- The text of a piece with its clause exchanged for `replacement`. -/
def Piece.exchanged (replacement : List Char) : Piece → List Char
  | kept c => [c]
  | clause _ => replacement

/-- The pieces of a text whose first `n` characters belong to a piece already read. -/
def piecesAfter : Nat → List Char → List Piece
  | _, [] => []
  | n + 1, _ :: s => piecesAfter n s
  | 0, c :: s =>
      match clauseAt? (c :: s) with
      | some q => .clause q :: piecesAfter (clauseLength - 1) s
      | none => .kept c :: piecesAfter 0 s

/-- The pieces of a text, from left to right. -/
def pieces (s : List Char) : List Piece := piecesAfter 0 s

/-- The code with every import clause exchanged for the token's inline module, or `none` if there is
no clause to exchange. -/
def exchange? (code : String) (t : Token) : Option String :=
  if isPresent code then
    some (String.ofList ((pieces code.toList).flatMap (Piece.exchanged (inlineClause t))))
  else none

def exchange (code : String) (t : Token) : String := (exchange? code t).getD code

end ScopedStyles.ScopeImport
