import ScopedStyles.Notifier

/-! # Scripted dev servers

Dev servers whose behaviour is set out beforehand: which modules they know, whether sending fails,
and which kinds of calls they leave waiting.  They are known by name. -/

namespace ScopedStyles.Host

inductive CallKind
  | lookup
  | invalidate
  | send
deriving DecidableEq, Repr

def CallKind.name : CallKind → String
  | lookup => "lookup"
  | invalidate => "invalidate"
  | send => "send"

def kindOf : ServerCall → CallKind
  | .lookup _ => .lookup
  | .invalidate _ => .invalidate
  | .send _ => .send

/-- Sets the value of a key; with no value the key is removed. -/
def assign (table : List (String × α)) (key : String) (value : Option α) : List (String × α) :=
  let rest := table.filter fun p => p.1 ≠ key
  match value with
  | some v => (key, v) :: rest
  | none => rest

/-- The script of one server. -/
structure Server where
  /-- The ids that can be looked up, with the id of the module found. -/
  modules : List (String × String)
  /-- Why sending fails, if it does. -/
  sendFailure : Option String
  /-- The calls that wait. -/
  held : List CallKind

namespace Server

/-- Knows nothing, holds nothing. -/
def empty : Server := ⟨[], none, []⟩

/-- The reply to a call; `none` while calls of its kind wait.  The clock of the script stands at 0.
-/
def reply? (s : Server) (c : ServerCall) : Option ServerReply :=
  if s.held.contains (kindOf c) then none
  else some (match c with
    | .lookup id => .found (s.modules.lookup id)
    | .invalidate _ => .invalidated 0
    | .send _ => .sent s.sendFailure)

end Server

/-- The servers by name; a server that was not mentioned yet is empty. -/
abbrev Servers := List (String × Server)

def Servers.named (s : Servers) (name : String) : Server := (s.lookup name).getD .empty

inductive ServerChange
  | module (id found : String)
  | unmodule (id : String)
  | sendFailure (message : Option String)
  | hold (calls : List CallKind)

def Servers.change (s : Servers) (name : String) (c : ServerChange) : Servers :=
  let server := s.named name
  assign s name (some (match c with
    | .module id found => { server with modules := assign server.modules id (some found) }
    | .unmodule id => { server with modules := assign server.modules id none }
    | .sendFailure message => { server with sendFailure := message }
    | .hold calls => { server with held := calls }))

/-- A call that a server got. -/
structure ServerEvent where
  server : String
  call : ServerCall
deriving DecidableEq, Repr

end ScopedStyles.Host
