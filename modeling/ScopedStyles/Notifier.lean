import ScopedStyles.Address
import ScopedStyles.HotUpdate
import ScopedStyles.Log

/-! # Invalidation

Keeps a dev server in step with the registry.  When a token's entry changes, a `Notice` carries the
news to the server that is attached at that moment: it looks the virtual module up, has it
invalidated and broadcasts one update.  Between two calls the notice waits for the server's reply
(`Notice.answer`); meanwhile another server may be attached, which does not concern notices already
on their way.

`S` is the type of dev servers. -/

namespace ScopedStyles

/-- What a dev server is asked to do. -/
inductive ServerCall
  /-- Find the module with this id. -/
  | lookup (id : String)
  /-- Drop what is cached for the module with this id. -/
  | invalidate (id : String)
  /-- Send a message to every client. -/
  | send (payload : Payload)
deriving DecidableEq, Repr

/-- What a dev server replies. -/
inductive ServerReply
  /-- The id of the module that was looked up, if the server knows one. -/
  | found (id : Option String)
  /-- The module is invalidated; the time is in milliseconds since the epoch. -/
  | invalidated (now : UInt64)
  /-- The message went out, or why it did not. -/
  | sent (failure : Option String)
deriving DecidableEq, Repr

/-! ### One notice -/

/-- The call that a notice waits for. -/
inductive NoticeStage
  | lookup
  | invalidate (id : String)
  | send (payload : Payload)
deriving DecidableEq, Repr

/-- The news of a changed token on its way to a server. -/
structure Notice (S : Type) where
  token : Token
  server : S
  stage : NoticeStage
deriving DecidableEq, Repr

/-- How a notice goes on after a reply. -/
inductive NoticeStep (S : Type)
  /-- It waits for the next call. -/
  | next (notice : Notice S)
  /-- It is over; `sent` tells whether an update was broadcast. -/
  | over (sent : Bool) (log : LogEntry)
deriving DecidableEq, Repr

namespace Notice

variable {S : Type}

def address (n : Notice S) : String := Address.ofToken n.token

/-- The call that the notice waits for. -/
def call (n : Notice S) : ServerCall :=
  match n.stage with
  | .lookup => .lookup n.address
  | .invalidate id => .invalidate id
  | .send payload => .send payload

/-- How the notice goes on; `none` for a reply to another kind of call. -/
def answer (n : Notice S) : ServerReply → Option (NoticeStep S)
  | .found none =>
      if n.stage = .lookup then some (.over false (.notInGraph n.address)) else none
  | .found (some id) =>
      if n.stage = .lookup then some (.next { n with stage := .invalidate id }) else none
  | .invalidated now =>
      match n.stage with
      | .invalidate _ => some (.next { n with stage := .send (.single n.address now) })
      | _ => none
  | .sent failure =>
      match n.stage, failure with
      | .send _, none => some (.over true (.updateSent n.address))
      | .send _, some error => some (.over false (.updateFailed n.address error))
      | _, _ => none

end Notice

/-! ### The attached server -/

/-- The dev server of a session, if there is one. -/
structure Notifier (S : Type) where
  server : Option S
deriving DecidableEq, Repr

namespace Notifier

variable {S : Type}

def empty : Notifier S := ⟨none⟩

def isAttached (n : Notifier S) : Bool := n.server.isSome

/-- Attaches a server in place of the one before. -/
def attach (n : Notifier S) (server : S) : Notifier S × List LogEntry :=
  (⟨some server⟩, if n.isAttached then [.serverReplaced] else [])

/-- The notice of a changed token, if there is a server to tell. -/
def notice? (n : Notifier S) (t : Token) : Option (Notice S) :=
  n.server.map fun server => ⟨t, server, .lookup⟩

end Notifier
end ScopedStyles
