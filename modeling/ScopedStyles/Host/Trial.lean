import ScopedStyles.Host.Generator
import ScopedStyles.Plugin

/-! # Trying a session out

A session together with a scripted generator and scripted dev servers.  Commands change the scripts
or drive the session; a transform runs until it returns or waits for something that the scripts hold
back, and can then be kept under a name and polled later.  What happened during a command is its
`Trace`. -/

namespace ScopedStyles.Host

/-- What happened during a command, in order. -/
structure Trace where
  calls : List GeneratorCall
  events : List ServerEvent
  log : List LogEntry

namespace Trace

def empty : Trace := ⟨[], [], []⟩

def append (s t : Trace) : Trace := ⟨s.calls ++ t.calls, s.events ++ t.events, s.log ++ t.log⟩

def ofEffect : Effect String → Trace
  | .log entry => ⟨[], [], [entry]⟩
  | .generate code id scope => ⟨[⟨code, id, scope⟩], [], []⟩
  | .call server call => ⟨[], [⟨server, call⟩], []⟩

def ofEffects (es : List (Effect String)) : Trace := (es.map ofEffect).foldl append empty

end Trace

/-- A session with its surroundings. -/
structure Trial where
  session : Session String
  generator : Generator
  servers : Servers
  /-- The transforms that are kept to be polled. -/
  parked : List (String × Nat)
  /-- The number of the next transform. -/
  next : Nat

/-- What to do next. -/
inductive Command
  | style (id : String) (css : Option String)
  | styleCode (code : String) (css : Option String)
  | fail (id : String) (message : Option String)
  | close (code : String)
  | reopen (code : String)
  | server (name : String) (change : ServerChange)
  | attach (server : String)
  | transform (code id : String) (name : Option String)
  | poll (name : String)
  | drop (name : String)
  | load (id : String)
  | resolve (id : String)
  | entry (token : Token)
  | tokens

inductive Yield
  | nothing
  | flag (b : Bool)
  | text (t : Option String)
  | texts (ts : List String)
  | pending
  | absent
  | returned (r : Returned)
  | loaded (m : Option LoadedModule)
  | entry (e : Option Entry)

namespace Trial

def fresh (filter : Filter) : Trial := ⟨.fresh filter, .empty, [], [], 0⟩

/-- The event that lets a waiting transform go on, if the scripts provide one. -/
def nextEvent? (t : Trial) (n : Nat) : Option (Event String) := do
  match ← t.session.flight? n with
  | .generating code id => return .generated n (← t.generator.answer? code id)
  | .notifying notice _ =>
      return .replied n (← (t.servers.named notice.server).reply? notice.call)

/-- Puts an event to the session. -/
def put (t : Trial) (e : Event String) : Trial × Trace × Option Answer :=
  match t.session.step e with
  | some s => ({ t with session := s.session }, .ofEffects s.effects, some s.answer)
  | none => (t, .empty, none)

/-- Lets a transform go on until it returns or waits, for at most `fuel` answers. -/
def proceed (n : Nat) : Nat → Trial → Trial × Trace × Option Returned
  | 0, t => (t, .empty, none)
  | fuel + 1, t =>
      match t.nextEvent? n with
      | none => ((t.put (.poll n)).1, .empty, none)
      | some e =>
          let (t, trace, answer) := t.put e
          match answer with
          | some (.returned r) => (t, trace, some r)
          | _ =>
              let (t, more, r) := proceed n fuel t
              (t, trace.append more, r)

/-- A transform waits for the generator and for three server calls at most. -/
def mostAnswers : Nat := 4

/-- Forgets a kept transform and drops it. -/
def discard (t : Trial) (name : String) : Trial :=
  match t.parked.lookup name with
  | some n => { (t.put (.drop n)).1 with parked := assign t.parked name none }
  | none => t

/-- Starts a transform and runs it as far as it goes. -/
def transform (t : Trial) (code id : String) (name : Option String) : Trial × Trace × Yield :=
  let n := t.next
  let (t, trace, answer) := { t with next := n + 1 }.put (.start n code id)
  match answer with
  | some (.returned r) => (t, trace, .returned r)
  | _ =>
      let (t, more, r) := proceed n mostAnswers t
      let trace := trace.append more
      match r, name with
      | some r, _ => (t, trace, .returned r)
      | none, some name =>
          let t := t.discard name
          ({ t with parked := assign t.parked name (some n) }, trace, .pending)
      | none, none => ((t.put (.drop n)).1, trace, .pending)

/-- Lets a kept transform go on. -/
def poll (t : Trial) (name : String) : Trial × Trace × Yield :=
  match t.parked.lookup name with
  | none => (t, .empty, .absent)
  | some n =>
      let (t, trace, r) := proceed n mostAnswers t
      match r with
      | some r => ({ t with parked := assign t.parked name none }, trace, .returned r)
      | none => (t, trace, .pending)

def run (t : Trial) : Command → Trial × Trace × Yield
  | .style id css =>
      ({ t with generator.byId := assign t.generator.byId id css }, .empty, .nothing)
  | .styleCode code css =>
      ({ t with generator.byCode := assign t.generator.byCode code css }, .empty, .nothing)
  | .fail id message =>
      ({ t with generator.failures := assign t.generator.failures id message }, .empty, .nothing)
  | .close code => ({ t with generator.closed := code :: t.generator.closed }, .empty, .nothing)
  | .reopen code =>
      ({ t with generator.closed := t.generator.closed.filter (· ≠ code) }, .empty, .nothing)
  | .server name change => ({ t with servers := t.servers.change name change }, .empty, .nothing)
  | .attach server =>
      let (t, trace, _) := t.put (.attach server)
      (t, trace, .nothing)
  | .transform code id name => t.transform code id name
  | .poll name => t.poll name
  | .drop name => (t.discard name, .empty, .flag (t.parked.lookup name).isSome)
  | .load id =>
      let (t, trace, answer) := t.put (.load id)
      match answer with
      | some (.loaded m) => (t, trace, .loaded m)
      | _ => (t, trace, .nothing)
  | .resolve id =>
      let (t, trace, answer) := t.put (.resolve id)
      match answer with
      | some (.resolved r) => (t, trace, .text r)
      | _ => (t, trace, .nothing)
  | .entry token => (t, .empty, .entry (t.session.registry.get? token))
  | .tokens => (t, .empty, .texts (t.session.registry.tokens.map Token.text))

end Trial
end ScopedStyles.Host
