import ScopedStyles.Proofs.Notice
import ScopedStyles.Proofs.Session.Step
import ScopedStyles.Proofs.Traces

/-! # Runs of a session

A `Turn` is a step with the session before it.  `Run filter h s` says that the turns `h`, oldest
first, lead from a fresh session to `s`; any number of transforms may be under way, and the events
come in any order that the session takes.  A transform keeps its number to itself: no other
transform of the run is started under the same number.

What a history shows is read off its turns: the `commits` (which transform wrote what), the
`changes` that the writes reported, the `calls` to servers, the `log` and the results (`returns`).
-/

namespace ScopedStyles

variable {S : Type}

/-- One step of a run: the session before it, what happened, and what came of it. -/
structure Turn (S : Type) where
  before : Session S
  event : Event S
  after : Stepped S

/-- Turns, oldest first. -/
abbrev History (S : Type) := List (Turn S)

/-- A transform that writes to the registry: its number, its file and the generator's answer. -/
structure Commit where
  flight : Nat
  code : String
  id : String
  artifact : Option String
deriving DecidableEq, Repr

def Commit.token (c : Commit) : Token := Token.ofIdentity c.id

def Commit.entry (c : Commit) : Entry := ⟨c.id, c.artifact⟩

/-! ### What a turn shows -/

def Event.starts? : Event S → Option Nat
  | .start n _ _ => some n
  | _ => none

/-- The server and the call, if an effect is a call to a server. -/
def Effect.call? : Effect S → Option (S × ServerCall)
  | .call server request => some (server, request)
  | _ => none

/-- The entry, if an effect is one for the log. -/
def Effect.entry? : Effect S → Option LogEntry
  | .log entry => some entry
  | _ => none

/-- The change that the report of a write tells of. -/
def LogEntry.change? : LogEntry → Option Change
  | .registered _ _ change => some change
  | _ => none

namespace Turn

def calls (u : Turn S) : List (S × ServerCall) := u.after.effects.filterMap Effect.call?

def log (u : Turn S) : List LogEntry := u.after.effects.filterMap Effect.entry?

/-- What a turn reports about a write to the registry. -/
def change? (u : Turn S) : Option Change := u.log.findSome? LogEntry.change?

/-- The commit of a turn that reports a write. -/
def commit? (u : Turn S) : Option Commit :=
  match u.event with
  | .generated n (.ok artifact) =>
      match u.before.flight? n, u.change? with
      | some (.generating code id), some _ => some ⟨n, code, id, artifact⟩
      | _, _ => none
  | _ => none

theorem commit?_of_change? {s : Session S} {r : Stepped S} {n : Nat} {code id : String}
    {artifact : Option String} {change : Change} (hn : s.flight? n = some (.generating code id))
    (hc : change? ⟨s, .generated n (.ok artifact), r⟩ = some change) :
    commit? ⟨s, .generated n (.ok artifact), r⟩ = some ⟨n, code, id, artifact⟩ := by
  simp only [commit?, hn, hc]

/-- The transform that returns in a turn, and its result. -/
def returned? (u : Turn S) : Option (Nat × Returned) :=
  match u.event.flight?, u.after.answer with
  | some n, .returned result => some (n, result)
  | _, _ => none

/-- The turn writes `c`, reports a modification, and finds `server` attached. -/
def Announces (u : Turn S) (c : Commit) (server : S) : Prop :=
  u.commit? = some c ∧ (∃ change, u.change? = some change ∧ change.isModified = true) ∧
    u.before.notifier.server = some server

end Turn

namespace History

def commits (h : History S) : List Commit := h.filterMap Turn.commit?

/-- What the writes of a history reported, in their order. -/
def changes (h : History S) : List Change := h.filterMap Turn.change?

def calls (h : History S) : List (S × ServerCall) := h.flatMap Turn.calls

def log (h : History S) : List LogEntry := h.flatMap Turn.log

/-- The results of the transforms that returned, with their numbers. -/
def returns (h : History S) : List (Nat × Returned) := h.filterMap Turn.returned?

def turnsOf (h : History S) (n : Nat) : History S := h.filter fun u => u.event.flight? = some n

section append
variable (h : History S) (u : Turn S)

theorem commits_concat : commits (h ++ [u]) = commits h ++ u.commit?.toList :=
  Traces.filterMap_concat _

theorem changes_concat : changes (h ++ [u]) = changes h ++ u.change?.toList :=
  Traces.filterMap_concat _

theorem returns_concat : returns (h ++ [u]) = returns h ++ u.returned?.toList :=
  Traces.filterMap_concat _

theorem calls_concat : calls (h ++ [u]) = calls h ++ u.calls := Traces.flatMap_concat _

theorem turnsOf_concat_self {n : Nat} (hu : u.event.flight? = some n) :
    turnsOf (h ++ [u]) n = turnsOf h n ++ [u] := Traces.about_concat_self hu

theorem turnsOf_concat_of_ne {n : Nat} (hu : u.event.flight? ≠ some n) :
    turnsOf (h ++ [u]) n = turnsOf h n := Traces.about_concat_of_ne hu

end append

theorem mem_turnsOf {h : History S} {u : Turn S} {n : Nat} :
    u ∈ turnsOf h n ↔ u ∈ h ∧ u.event.flight? = some n := Traces.mem_about

theorem turnsOf_eq_nil_iff {h : History S} {n : Nat} :
    turnsOf h n = [] ↔ ∀ u ∈ h, u.event.flight? ≠ some n := Traces.about_eq_nil_iff

end History

/-! ### Runs -/

/-- `Run filter h s`: the turns `h` lead from a fresh session to `s`. -/
inductive Run (filter : Filter) : History S → Session S → Prop
  | fresh : Run filter [] (.fresh filter)
  | turn {h : History S} {s : Session S} {e : Event S} {r : Stepped S} :
      Run filter h s → s.step e = some r →
      (∀ n, e.starts? = some n → ∀ u ∈ h, u.event.flight? ≠ some n) →
      Run filter (h ++ [⟨s, e, r⟩]) r.session

namespace Run

variable {filter : Filter} {h : History S} {s : Session S} {u : Turn S}

/-- The last turn of a run is a step of the session that the others lead to, and starts no transform
that has had a turn. -/
theorem of_concat (run : Run filter (h ++ [u]) s) :
    Run filter h u.before ∧ u.before.step u.event = some u.after ∧
      ∀ n, u.event.starts? = some n → ∀ v ∈ h, v.event.flight? ≠ some n := by
  generalize hh : h ++ [u] = h' at run
  cases run with
  | fresh => simp at hh
  | turn run hstep hnew =>
      obtain ⟨rfl, hu⟩ := List.append_inj' hh rfl
      obtain rfl := List.singleton_inj.mp hu
      exact ⟨run, hstep, hnew⟩

/-- Every turn of a run goes by the rules, in the session that the turns before it lead to. -/
theorem split (run : Run filter h s) (hu : u ∈ h) :
    ∃ h₁ h₂, h = h₁ ++ u :: h₂ ∧ Run filter h₁ u.before ∧ u.before.Takes u.event u.after := by
  have hlast {h : History S} {u : Turn S} (hrun : ∃ s, Run filter (h ++ [u]) s) :
      (∃ s, Run filter h s) ∧ Run filter h u.before ∧ u.before.Takes u.event u.after := by
    obtain ⟨s, run⟩ := hrun
    obtain ⟨run₁, hstep, -⟩ := run.of_concat
    exact ⟨⟨_, run₁⟩, run₁, Session.takes_of_step hstep⟩
  obtain ⟨h₁, h₂, hh, -, hfit⟩ :=
    Traces.exists_split_of_mem (R := fun h => ∃ s, Run filter h s) hlast ⟨s, run⟩ hu
  exact ⟨h₁, h₂, hh, hfit⟩

theorem takes_of_mem (run : Run filter h s) (hu : u ∈ h) : u.before.Takes u.event u.after := by
  obtain ⟨-, -, -, -, ht⟩ := run.split hu
  exact ht

end Run

/-! ### Runs by their events -/

def Filter.all : Filter := ⟨[], []⟩

/-- One more turn, if the session takes the event and no number is used twice. -/
def extend? (p : History S × Session S) (e : Event S) : Option (History S × Session S) :=
  if e.starts?.all fun n => p.1.all fun u => u.event.flight? ≠ some n then
    (p.2.step e).map fun r => (p.1 ++ [⟨p.2, e, r⟩], r.session)
  else none

/-- The run that events make up, if they make up one. -/
def follow? (filter : Filter) (es : List (Event S)) : Option (History S × Session S) :=
  es.foldlM extend? ([], .fresh filter)

theorem Run.of_foldlM {filter : Filter} {h' : History S} {s' : Session S} :
    ∀ {es : List (Event S)} {h : History S} {s : Session S}, Run filter h s →
      es.foldlM extend? (h, s) = some (h', s') → Run filter h' s'
  | [], _, _, run, he => by
      cases he
      exact run
  | e :: es, h, s, run, he => by
      rw [List.foldlM_cons] at he
      obtain ⟨p, hp, he⟩ := Option.bind_eq_some_iff.mp he
      unfold extend? at hp
      split at hp
      · rename_i hnew
        obtain ⟨r, hr, rfl⟩ := Option.map_eq_some_iff.mp hp
        refine Run.of_foldlM (run.turn hr fun n hn u hu => ?_) he
        rw [hn, Option.all_some, List.all_eq_true] at hnew
        simpa using hnew u hu
      · cases hp

/-- Events that make up a run with a property that can be computed are a run with that property. -/
theorem exists_run_of_follow? (filter : Filter) (es : List (Event S))
    (p : History S × Session S → Bool) (h : (follow? filter es).any p = true) :
    ∃ (h : History S) (s : Session S), Run filter h s ∧ p (h, s) = true := by
  cases hf : follow? filter es with
  | none => rw [hf] at h; cases h
  | some q => rw [hf] at h; exact ⟨q.1, q.2, Run.of_foldlM .fresh hf, h⟩

namespace Session
namespace Takes

variable {s : Session S} {e : Event S} {r : Stepped S}

theorem filter_eq (h : Takes s e r) : r.session.filter = s.filter := by
  cases h <;> rfl

/-- A step is about one transform at most; all others stand where they stood. -/
theorem flight?_of_ne (h : Takes s e r) {n : Nat} (hn : e.flight? ≠ some n) :
    r.session.flight? n = s.flight? n := by
  have ne {m : Nat} (h : some m ≠ some n) : n ≠ m := fun e => h (congrArg some e.symm)
  cases h with
  | skip _ _ => rfl
  | launch _ _ => exact flight?_fly_of_ne s _ (ne hn)
  | fail _ => exact flight?_land_of_ne s (ne hn)
  | pass _ _ => exact flight?_land_of_ne s (ne hn)
  | settle _ _ _ => exact flight?_land_of_ne (s.stored _ _) (ne hn)
  | notify _ _ _ _ => exact flight?_fly_of_ne (s.stored _ _) _ (ne hn)
  | advance _ _ => exact flight?_fly_of_ne s _ (ne hn)
  | finish _ _ => exact flight?_land_of_ne s (ne hn)
  | poll _ => rfl
  | drop _ => exact flight?_land_of_ne s (ne hn)
  | load _ => rfl
  | resolve _ => rfl
  | attach _ => rfl

theorem flight?_of_starts? (ht : Takes s e r) {n : Nat} (he : e.starts? = some n) :
    s.flight? n = none ∧ e.flight? = some n := by
  cases ht with
  | skip hn _ => cases he; exact ⟨hn, rfl⟩
  | launch hn _ => cases he; exact ⟨hn, rfl⟩
  | _ => cases he

theorem starts?_of_flight? (ht : Takes s e r) {n : Nat} (hn : s.flight? n = none)
    (he : e.flight? = some n) : e.starts? = some n := by
  cases ht with
  | skip _ _ => exact he
  | launch _ _ => exact he
  | fail hf => cases he; rw [hn] at hf; cases hf
  | pass hf _ => cases he; rw [hn] at hf; cases hf
  | settle hf _ _ => cases he; rw [hn] at hf; cases hf
  | notify hf _ _ _ => cases he; rw [hn] at hf; cases hf
  | advance hf _ => cases he; rw [hn] at hf; cases hf
  | finish hf _ => cases he; rw [hn] at hf; cases hf
  | poll hf => cases he; rw [hn] at hf; cases hf
  | drop hf => cases he; rw [hn] at hf; cases hf
  | _ => cases he

theorem calls_eq_nil (ht : Takes s e r) (he : e.flight? = none) : Turn.calls ⟨s, e, r⟩ = [] := by
  cases ht with
  | load id => by_cases h : s.registry.isEarly id <;> simp [Turn.calls, h, Effect.call?]
  | resolve id => rfl
  | attach server =>
      by_cases h : s.notifier.isAttached <;>
        simp [Turn.calls, Notifier.attach, h, Effect.call?]
  | _ => cases he

theorem flight?_of_calls (ht : Takes s e r) (hc : Turn.calls ⟨s, e, r⟩ ≠ []) :
    ∃ n f, e.flight? = some n ∧ s.flight? n = some f := by
  cases he : e.flight? with
  | none => exact absurd (ht.calls_eq_nil he) hc
  | some n =>
      cases hf : s.flight? n with
      | some f => exact ⟨n, f, rfl, hf⟩
      | none =>
          have hs := ht.starts?_of_flight? hf he
          cases ht with
          | skip _ _ => exact absurd rfl hc
          | launch _ _ => exact absurd rfl hc
          | _ => cases hs

/-- A step either writes one entry and reports what that did, or leaves the registry alone. -/
theorem write_or_keep (h : Takes s e r) :
    (∃ c : Commit, Turn.commit? ⟨s, e, r⟩ = some c ∧ e = .generated c.flight (.ok c.artifact) ∧
        s.flight? c.flight = some (.generating c.code c.id) ∧ Writes c.code c.artifact ∧
        Turn.change? ⟨s, e, r⟩ = some (s.registry.change c.token c.entry) ∧
        r.session.registry = (s.registry.put c.token c.entry).1) ∨
      (Turn.commit? ⟨s, e, r⟩ = none ∧ Turn.change? ⟨s, e, r⟩ = none ∧
        r.session.registry = s.registry) := by
  cases h with
  | @settle n code id artifact hn hw _ =>
      exact .inl ⟨⟨n, code, id, artifact⟩, Turn.commit?_of_change? hn rfl, rfl, hn, hw, rfl, rfl⟩
  | @notify n code id artifact server hn hw _ _ =>
      exact .inl ⟨⟨n, code, id, artifact⟩, Turn.commit?_of_change? hn rfl, rfl, hn, hw, rfl, rfl⟩
  | pass hn _ =>
      exact .inr ⟨by simp [Turn.commit?, Turn.change?, Turn.log], rfl, rfl⟩
  | finish hn ha =>
      refine .inr ⟨rfl, ?_, rfl⟩
      rcases Notice.answer_eq_over ha with ⟨-, -, -, rfl⟩ | ⟨_, -, -, -, rfl⟩ |
        ⟨_, _, -, -, -, rfl⟩ <;> rfl
  | load id =>
      refine .inr ⟨rfl, ?_, rfl⟩
      by_cases he : s.registry.isEarly id <;>
        simp [Turn.change?, Turn.log, he, Effect.entry?, LogEntry.change?]
  | attach server =>
      refine .inr ⟨rfl, ?_, rfl⟩
      by_cases he : s.notifier.isAttached <;>
        simp [Turn.change?, Turn.log, Notifier.attach, he, Effect.entry?, LogEntry.change?]
  | _ => exact .inr ⟨rfl, rfl, rfl⟩

/-- A commit is the generator's answer to a transform that waits for it, written under its token. -/
theorem write_of_commit (h : Takes s e r) {c : Commit} (hc : Turn.commit? ⟨s, e, r⟩ = some c) :
    e = .generated c.flight (.ok c.artifact) ∧
      s.flight? c.flight = some (.generating c.code c.id) ∧
      r.session.registry = (s.registry.put c.token c.entry).1 := by
  rcases h.write_or_keep with ⟨d, hd, he, hf, -, -, hr⟩ | ⟨hnone, -⟩
  · obtain rfl : d = c := Option.some.inj (hd.symm.trans hc)
    exact ⟨he, hf, hr⟩
  · cases hnone.symm.trans hc

theorem registry_eq_of_commit (h : Takes s e r) (hc : Turn.commit? ⟨s, e, r⟩ = none) :
    r.session.registry = s.registry := by
  rcases h.write_or_keep with ⟨d, hd, -⟩ | ⟨-, -, hr⟩
  · cases hc.symm.trans hd
  · exact hr

end Takes
end Session
end ScopedStyles
