import ScopedStyles.Registry

/-! # Log entries

Everything that a session reports while it works, with its level, its fixed message and its fields.
-/

namespace ScopedStyles

/-- Something worth reporting. -/
inductive LogEntry
  /-- A file was left alone because the filter rejects it. -/
  | skipped (id : String)
  /-- A transform wrote its stylesheet to the registry. -/
  | registered (id : String) (token : Token) (change : Change)
  /-- A virtual module was loaded before anything was registered for it. -/
  | earlyLoad (id : String)
  /-- A dev server took the place of another. -/
  | serverReplaced
  /-- The dev server does not know the virtual module. -/
  | notInGraph (address : String)
  /-- The dev server could not send a hot update. -/
  | updateFailed (address error : String)
  /-- A hot update went out. -/
  | updateSent (address : String)
deriving DecidableEq, Repr

namespace LogEntry

def level : LogEntry → String
  | skipped _ | earlyLoad _ | notInGraph _ => "trace"
  | registered .. | updateSent _ => "debug"
  | serverReplaced | updateFailed .. => "warn"

def message : LogEntry → String
  | skipped _ => "skipped by filter"
  | registered .. => "registered module styles"
  | earlyLoad _ => "virtual module requested before registration"
  | serverReplaced => "dev server handle replaced"
  | notInGraph _ => "virtual module not in graph yet"
  | updateFailed .. => "hot update broadcast failed"
  | updateSent _ => "hot update sent"

def fields : LogEntry → List (String × String)
  | skipped id => [("id", id)]
  | registered id token change =>
      [("id", id), ("token", token.text), ("update", change.name)]
  | earlyLoad id => [("id", id)]
  | serverReplaced => []
  | notInGraph address => [("address", address)]
  | updateFailed address error => [("address", address), ("error", error)]
  | updateSent address => [("address", address)]

end LogEntry
end ScopedStyles
