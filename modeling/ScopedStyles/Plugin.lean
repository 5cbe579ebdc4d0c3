import ScopedStyles.Filter
import ScopedStyles.ModuleOutput
import ScopedStyles.Notifier
import ScopedStyles.ScopeImport

/-! # Sessions

A session transforms source files while a host loads virtual modules and dev servers come and go.  A
transform waits twice: for the style generator, and for a dev server while it carries the news of a
changed stylesheet.  Between these points it works in one piece, so a session is a machine that
takes one `Event` at a time (`Session.step`): a transform starts, a generator or server answers, a
transform is polled too early or dropped, the host loads, resolves or attaches.  What a step asks of
the outside and reports are its effects.

* A filtered file is left alone; nothing is generated for it.
* After the generator's answer the transform fails, or passes the file through when there are no
  styles and no scope import, or writes to the registry and notifies the server if the entry
  changed.
* A transform that is polled too early goes on waiting.
* A dropped transform undoes nothing; it only does not go on.

`S` is the type of dev servers. -/

namespace ScopedStyles

def pluginName : String := "miniwind:module-scope"

/-- The plugin runs after the host's own transforms. -/
def enforce : String := "post"

/-- In a host where an empty text counts as nothing, an empty stylesheet means no styles. -/
def styleFromHost (style : Option String) : Option String := style.filter (· ≠ "")

structure GenerateFailure where
  id : String
  source : String
deriving DecidableEq, Repr

def GenerateFailure.message (f : GenerateFailure) : String :=
  "style generation failed for " ++ f.id ++ ": " ++ f.source

/-! ### Transforms in flight -/

/-- A transform that has started and not returned. -/
inductive Flight (S : Type)
  /-- It waits for the generator. -/
  | generating (code id : String)
  /-- It has written to the registry and waits for a server. -/
  | notifying (notice : Notice S) (output : Output)
deriving DecidableEq, Repr

/-- What a transform returns: nothing for a file that is left as it is. -/
abbrev Returned := Except GenerateFailure (Option Output)

/-- Whether code asks for its scope, as the generator is told: the selector of the id's token. -/
def explicitScope (code id : String) : Option String :=
  if ScopeImport.isPresent code then some (Token.ofIdentity id).selector else none

/-- The result of a transform that writes to the registry: an import of the virtual module, and the
code with its scope imports exchanged. -/
def outputOf (code id : String) : Output :=
  let t := Token.ofIdentity id
  { code := "import \"" ++ Address.ofToken t ++ "\";" ++ ScopeImport.exchange code t, map := none }

/-! ### Events and effects -/

/-- What happens to a session.  Transforms in flight are told apart by numbers. -/
inductive Event (S : Type)
  | start (flight : Nat) (code id : String)
  | generated (flight : Nat) (answer : Except String (Option String))
  | replied (flight : Nat) (reply : ServerReply)
  /-- A transform is asked to go on while what it waits for is not there yet. -/
  | poll (flight : Nat)
  | drop (flight : Nat)
  | load (id : String)
  | resolve (id : String)
  | attach (server : S)

/-- What a step asks of the outside and reports. -/
inductive Effect (S : Type)
  | log (entry : LogEntry)
  | generate (code id : String) (scope : Option String)
  | call (server : S) (request : ServerCall)
deriving DecidableEq, Repr

/-- What a step answers to who caused it. -/
inductive Answer
  /-- The transform waits. -/
  | pending
  | returned (result : Returned)
  | loaded (loaded : Option LoadedModule)
  | resolved (id : Option String)
  | done

/-- The state of a session. -/
structure Session (S : Type) where
  filter : Filter
  registry : Registry
  notifier : Notifier S
  flights : List (Nat × Flight S)

/-- A session after a step, with the step's effects in order and its answer. -/
structure Stepped (S : Type) where
  session : Session S
  effects : List (Effect S)
  answer : Answer

namespace Session

variable {S : Type}

def fresh (filter : Filter) : Session S := ⟨filter, .empty, .empty, []⟩

def isCandidate (s : Session S) (id : String) : Bool :=
  !(".css".toList.isSuffixOf id.toList) && s.filter.accepts id

/-- A transform, if it is in flight. -/
def flight? (s : Session S) (n : Nat) : Option (Flight S) := s.flights.lookup n

/-- Ends a flight. -/
def land (s : Session S) (n : Nat) : Session S :=
  { s with flights := s.flights.filter fun f => f.1 ≠ n }

/-- Sets where a flight stands. -/
def fly (s : Session S) (n : Nat) (f : Flight S) : Session S :=
  { s with flights := (n, f) :: (s.land n).flights }

def start (s : Session S) (n : Nat) (code id : String) : Stepped S :=
  if s.isCandidate id then
    { session := s.fly n (.generating code id)
      effects := [.generate code id (explicitScope code id)]
      answer := .pending }
  else { session := s, effects := [.log (.skipped id)], answer := .returned (.ok none) }

/-- Writes a stylesheet to the registry and sets out to notify the server if the entry changed. -/
def commit (s : Session S) (n : Nat) (code id : String) (artifact : Option String) : Stepped S :=
  let t := Token.ofIdentity id
  let (registry, change) := s.registry.put t ⟨id, artifact⟩
  let s := { s with registry }
  let entry : Effect S := .log (.registered id t change)
  let output := outputOf code id
  match (if change.isModified then s.notifier.notice? t else none) with
  | some notice =>
      { session := s.fly n (.notifying notice output)
        effects := [entry, .call notice.server notice.call]
        answer := .pending }
  | none =>
      { session := s.land n, effects := [entry], answer := .returned (.ok (some output)) }

/-- Goes on after the generator's answer. -/
def generated (s : Session S) (n : Nat) (code id : String) :
    Except String (Option String) → Stepped S
  | .error source =>
      { session := s.land n, effects := [], answer := .returned (.error ⟨id, source⟩) }
  | .ok artifact =>
      if artifact.isNone ∧ ¬ ScopeImport.isPresent code then
        { session := s.land n, effects := [], answer := .returned (.ok none) }
      else s.commit n code id artifact

/-- Goes on after a step of the notice. -/
def notified (s : Session S) (n : Nat) (output : Output) : NoticeStep S → Stepped S
  | .next notice =>
      { session := s.fly n (.notifying notice output)
        effects := [.call notice.server notice.call]
        answer := .pending }
  | .over _ entry =>
      { session := s.land n, effects := [.log entry], answer := .returned (.ok (some output)) }

/-- One step; `none` if the event does not fit the state: a number already in flight, or an answer
that no flight waits for. -/
def step (s : Session S) : Event S → Option (Stepped S)
  | .start n code id => if (s.flight? n).isSome then none else some (s.start n code id)
  | .generated n answer =>
      match s.flight? n with
      | some (.generating code id) => some (s.generated n code id answer)
      | _ => none
  | .replied n reply =>
      match s.flight? n with
      | some (.notifying notice output) => (notice.answer reply).map (s.notified n output)
      | _ => none
  | .poll n =>
      if (s.flight? n).isSome then some { session := s, effects := [], answer := .pending }
      else none
  | .drop n =>
      if (s.flight? n).isSome then
        some { session := s.land n, effects := [], answer := .done }
      else none
  | .load id =>
      some {
        session := s
        effects := if s.registry.isEarly id then [.log (.earlyLoad id)] else []
        answer := .loaded (s.registry.load id) }
  | .resolve id => some { session := s, effects := [], answer := .resolved (Address.resolve id) }
  | .attach server =>
      let (notifier, log) := s.notifier.attach server
      some { session := { s with notifier }, effects := log.map .log, answer := .done }

end Session
end ScopedStyles
