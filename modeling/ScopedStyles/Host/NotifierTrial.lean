import ScopedStyles.Host.Server

/-! # Trying a notifier out

A notifier on its own, with scripted dev servers.  A notice that has to wait for a server is given
up. -/

namespace ScopedStyles.Host

/-- A notifier with its servers. -/
structure NotifierTrial where
  notifier : Notifier String
  servers : Servers

/-- What to do next. -/
inductive NotifierCommand
  | server (name : String) (change : ServerChange)
  | attach (server : String)
  | attached
  | invalidate (token : Token)

/-- What a command yields, and the calls and reports during it. -/
structure NotifierResult where
  /-- Whether a server is attached or an update was broadcast; nothing for other commands and for a
  notice that waits. -/
  flag : Option Bool
  events : List ServerEvent
  log : List LogEntry

namespace NotifierTrial

/-- No server attached, none mentioned. -/
def fresh : NotifierTrial := ⟨.empty, []⟩

/-- Carries a notice as far as it goes, for at most `fuel` calls. -/
def carry (servers : Servers) : Nat → Notice String → NotifierResult
  | 0, _ => ⟨none, [], []⟩
  | fuel + 1, notice =>
      let event : ServerEvent := ⟨notice.server, notice.call⟩
      match ((servers.named notice.server).reply? notice.call).bind notice.answer with
      | none => ⟨none, [event], []⟩
      | some (.over sent entry) => ⟨some sent, [event], [entry]⟩
      | some (.next notice) =>
          let rest := carry servers fuel notice
          { rest with events := event :: rest.events }

def run (t : NotifierTrial) : NotifierCommand → NotifierTrial × NotifierResult
  | .server name change => ({ t with servers := t.servers.change name change }, ⟨none, [], []⟩)
  | .attach server =>
      let (notifier, log) := t.notifier.attach server
      ({ t with notifier }, ⟨none, [], log⟩)
  | .attached => (t, ⟨some t.notifier.isAttached, [], []⟩)
  | .invalidate token =>
      match t.notifier.notice? token with
      | none => (t, ⟨some false, [], []⟩)
      | some notice => (t, carry t.servers 3 notice)

end NotifierTrial
end ScopedStyles.Host
