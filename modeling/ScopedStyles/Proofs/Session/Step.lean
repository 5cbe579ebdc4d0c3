import ScopedStyles.Plugin

/-! # What a step of a session can do

`Session.step` is a function that refuses the events that do not fit.  `Takes s e r` lists the ways
in which an event `e` does fit a session `s`, one rule for each, with all that the step leaves
behind in `r`; `step_eq_some_iff` says that the two agree.  Later proofs go by cases on the rules
and do not open `step` again.

A transform that is answered by the generator writes a stylesheet or not (`Writes`).  If it does,
the session is `stored` and the report carries the change `changeBy`; a notice sets out only if the
change is a modification and a server is attached. -/

namespace ScopedStyles

/-- The transform that an event is about. -/
def Event.flight? {S : Type} : Event S → Option Nat
  | .start n _ _ | .generated n _ | .replied n _ | .poll n | .drop n => some n
  | .load _ | .resolve _ | .attach _ => none

namespace Session

variable {S : Type}

/-! ### Flights -/

theorem lookup_filter_ne (n m : Nat) : ∀ l : List (Nat × Flight S),
    (l.filter fun f => f.1 ≠ n).lookup m = if m = n then none else l.lookup m
  | [] => by simp
  | (k, f) :: l => by
      have ih := lookup_filter_ne n m l
      by_cases hk : k = n
      · rw [List.filter_cons_of_neg (by simp [hk]), ih, List.lookup_cons]
        by_cases hm : m = n
        · simp [hm]
        · simp [hm, beq_eq_false_iff_ne.mpr (fun h : m = k => hm (h.trans hk))]
      · rw [List.filter_cons_of_pos (by simp [hk]), List.lookup_cons, List.lookup_cons, ih]
        by_cases hm : m = k
        · simp [hm, hk]
        · simp [beq_eq_false_iff_ne.mpr hm]

theorem flight?_land (s : Session S) (n m : Nat) :
    (s.land n).flight? m = if m = n then none else s.flight? m :=
  lookup_filter_ne n m s.flights

theorem flight?_fly (s : Session S) (n m : Nat) (f : Flight S) :
    (s.fly n f).flight? m = if m = n then some f else s.flight? m := by
  unfold flight? fly
  rw [List.lookup_cons]
  by_cases h : m = n
  · simp [h]
  · simp only [beq_eq_false_iff_ne.mpr h, h, ↓reduceIte]
    have := s.flight?_land n m
    rwa [if_neg h] at this

@[simp] theorem flight?_land_self (s : Session S) (n : Nat) : (s.land n).flight? n = none := by
  rw [flight?_land, if_pos rfl]

theorem flight?_land_of_ne (s : Session S) {n m : Nat} (h : m ≠ n) :
    (s.land n).flight? m = s.flight? m := by
  rw [flight?_land, if_neg h]

@[simp] theorem flight?_fly_self (s : Session S) (n : Nat) (f : Flight S) :
    (s.fly n f).flight? n = some f := by
  rw [flight?_fly, if_pos rfl]

theorem flight?_fly_of_ne (s : Session S) {n m : Nat} (f : Flight S) (h : m ≠ n) :
    (s.fly n f).flight? m = s.flight? m := by
  rw [flight?_fly, if_neg h]

@[simp] theorem flight?_fresh (filter : Filter) (n : Nat) :
    (fresh filter : Session S).flight? n = none := rfl

@[simp] theorem filter_land (s : Session S) (n : Nat) : (s.land n).filter = s.filter := rfl
@[simp] theorem registry_land (s : Session S) (n : Nat) : (s.land n).registry = s.registry := rfl
@[simp] theorem notifier_land (s : Session S) (n : Nat) : (s.land n).notifier = s.notifier := rfl

@[simp] theorem filter_fly (s : Session S) (n : Nat) (f : Flight S) :
    (s.fly n f).filter = s.filter := rfl
@[simp] theorem registry_fly (s : Session S) (n : Nat) (f : Flight S) :
    (s.fly n f).registry = s.registry := rfl
@[simp] theorem notifier_fly (s : Session S) (n : Nat) (f : Flight S) :
    (s.fly n f).notifier = s.notifier := rfl

/-! ### Writing -/

/-- Whether a transform writes to the registry when the generator answers with `artifact`. -/
def Writes (code : String) (artifact : Option String) : Prop :=
  artifact ≠ none ∨ ScopeImport.isPresent code = true

instance (code : String) (artifact : Option String) : Decidable (Writes code artifact) :=
  inferInstanceAs (Decidable (_ ∨ _))

/-- What writing the stylesheet of a file would do. -/
def changeBy (s : Session S) (id : String) (artifact : Option String) : Change :=
  s.registry.change (Token.ofIdentity id) ⟨id, artifact⟩

/-- The session with the stylesheet of a file written. -/
def stored (s : Session S) (id : String) (artifact : Option String) : Session S :=
  { s with registry := (s.registry.put (Token.ofIdentity id) ⟨id, artifact⟩).1 }

@[simp] theorem filter_stored (s : Session S) (id : String) (artifact : Option String) :
    (s.stored id artifact).filter = s.filter := rfl
@[simp] theorem registry_stored (s : Session S) (id : String) (artifact : Option String) :
    (s.stored id artifact).registry = (s.registry.put (Token.ofIdentity id) ⟨id, artifact⟩).1 := rfl
@[simp] theorem notifier_stored (s : Session S) (id : String) (artifact : Option String) :
    (s.stored id artifact).notifier = s.notifier := rfl
@[simp] theorem flight?_stored (s : Session S) (id : String) (artifact : Option String) (n : Nat) :
    (s.stored id artifact).flight? n = s.flight? n := rfl

def reportOf (s : Session S) (id : String) (artifact : Option String) : LogEntry :=
  .registered id (Token.ofIdentity id) (s.changeBy id artifact)

/-! ### The rules -/

/-- `Takes s e r`: the session `s` takes the event `e`, and `r` is what comes of it. -/
inductive Takes (s : Session S) : Event S → Stepped S → Prop
  /-- A file that is no candidate is left alone. -/
  | skip {n : Nat} {code id : String} :
      s.flight? n = none → s.isCandidate id = false →
      Takes s (.start n code id) ⟨s, [.log (.skipped id)], .returned (.ok none)⟩
  /-- The generator is asked. -/
  | launch {n : Nat} {code id : String} :
      s.flight? n = none → s.isCandidate id = true →
      Takes s (.start n code id)
        ⟨s.fly n (.generating code id), [.generate code id (explicitScope code id)], .pending⟩
  /-- The generator failed. -/
  | fail {n : Nat} {code id source : String} :
      s.flight? n = some (.generating code id) →
      Takes s (.generated n (.error source)) ⟨s.land n, [], .returned (.error ⟨id, source⟩)⟩
  /-- No styles and no scope import. -/
  | pass {n : Nat} {code id : String} {artifact : Option String} :
      s.flight? n = some (.generating code id) → ¬ Writes code artifact →
      Takes s (.generated n (.ok artifact)) ⟨s.land n, [], .returned (.ok none)⟩
  /-- The stylesheet is written, and there is nothing to tell or nobody to tell it to. -/
  | settle {n : Nat} {code id : String} {artifact : Option String} :
      s.flight? n = some (.generating code id) → Writes code artifact →
      ((s.changeBy id artifact).isModified = false ∨ s.notifier.server = none) →
      Takes s (.generated n (.ok artifact))
        ⟨(s.stored id artifact).land n, [.log (s.reportOf id artifact)],
          .returned (.ok (some (outputOf code id)))⟩
  /-- The stylesheet is written, and a notice sets out. -/
  | notify {n : Nat} {code id : String} {artifact : Option String} {server : S} :
      s.flight? n = some (.generating code id) → Writes code artifact →
      (s.changeBy id artifact).isModified = true → s.notifier.server = some server →
      Takes s (.generated n (.ok artifact))
        ⟨(s.stored id artifact).fly n
            (.notifying ⟨Token.ofIdentity id, server, .lookup⟩ (outputOf code id)),
          [.log (s.reportOf id artifact),
            .call server (.lookup (Address.ofToken (Token.ofIdentity id)))],
          .pending⟩
  /-- A reply leads to the next call. -/
  | advance {n : Nat} {notice next : Notice S} {output : Output} {reply : ServerReply} :
      s.flight? n = some (.notifying notice output) → notice.answer reply = some (.next next) →
      Takes s (.replied n reply)
        ⟨s.fly n (.notifying next output), [.call next.server next.call], .pending⟩
  /-- A reply ends the notice. -/
  | finish {n : Nat} {notice : Notice S} {output : Output} {reply : ServerReply} {sent : Bool}
      {entry : LogEntry} :
      s.flight? n = some (.notifying notice output) →
      notice.answer reply = some (.over sent entry) →
      Takes s (.replied n reply) ⟨s.land n, [.log entry], .returned (.ok (some output))⟩
  | poll {n : Nat} {f : Flight S} :
      s.flight? n = some f → Takes s (.poll n) ⟨s, [], .pending⟩
  | drop {n : Nat} {f : Flight S} :
      s.flight? n = some f → Takes s (.drop n) ⟨s.land n, [], .done⟩
  | load (id : String) :
      Takes s (.load id) ⟨s, if s.registry.isEarly id then [.log (.earlyLoad id)] else [],
        .loaded (s.registry.load id)⟩
  | resolve (id : String) : Takes s (.resolve id) ⟨s, [], .resolved (Address.resolve id)⟩
  | attach (server : S) :
      Takes s (.attach server)
        ⟨{ s with notifier := (s.notifier.attach server).1 },
          (s.notifier.attach server).2.map .log, .done⟩

/-! ### Agreement with the function -/

variable {s : Session S} {r : Stepped S} {e : Event S} {n : Nat} {code id : String}
  {artifact : Option String} {server : S}

theorem commit_of_quiet
    (h : (s.changeBy id artifact).isModified = false ∨ s.notifier.server = none) :
    s.commit n code id artifact =
      ⟨(s.stored id artifact).land n, [.log (s.reportOf id artifact)],
        .returned (.ok (some (outputOf code id)))⟩ := by
  unfold changeBy at h
  rcases h with h | h
  · simp [commit, Registry.put, h, stored, reportOf, changeBy]
  · simp [commit, Registry.put, Notifier.notice?, h, stored, reportOf, changeBy]

theorem commit_of_modified (hm : (s.changeBy id artifact).isModified = true)
    (hv : s.notifier.server = some server) :
    s.commit n code id artifact =
      ⟨(s.stored id artifact).fly n
          (.notifying ⟨Token.ofIdentity id, server, .lookup⟩ (outputOf code id)),
        [.log (s.reportOf id artifact),
          .call server (.lookup (Address.ofToken (Token.ofIdentity id)))],
        .pending⟩ := by
  unfold changeBy at hm
  simp [commit, Registry.put, Notifier.notice?, hv, hm, stored, reportOf, changeBy, Notice.call,
    Notice.address]

theorem generated_of_writes (h : Writes code artifact) :
    s.generated n code id (.ok artifact) = s.commit n code id artifact := by
  have h' : ¬ (artifact.isNone ∧ ¬ ScopeImport.isPresent code) := by
    rintro ⟨ha, hp⟩
    rcases h with h | h
    · exact h (by simpa using ha)
    · exact hp h
  simp only [generated]
  rw [if_neg h']

theorem generated_of_not_writes (h : ¬ Writes code artifact) :
    s.generated n code id (.ok artifact) = ⟨s.land n, [], .returned (.ok none)⟩ := by
  obtain ⟨ha, hp⟩ := not_or.mp h
  have h' : artifact.isNone ∧ ¬ ScopeImport.isPresent code := ⟨by simpa using ha, hp⟩
  simp only [generated]
  rw [if_pos h']

theorem takes_start (hn : s.flight? n = none) :
    Takes s (.start n code id) (s.start n code id) := by
  unfold start
  split
  · rename_i h
    exact .launch hn h
  · rename_i h
    exact .skip hn (by simpa using h)

theorem takes_commit (hn : s.flight? n = some (.generating code id)) (hw : Writes code artifact) :
    Takes s (.generated n (.ok artifact)) (s.commit n code id artifact) := by
  by_cases hm : (s.changeBy id artifact).isModified = true
  · cases hv : s.notifier.server with
    | none =>
        rw [commit_of_quiet (.inr hv)]
        exact .settle hn hw (.inr hv)
    | some server =>
        rw [commit_of_modified hm hv]
        exact .notify hn hw hm hv
  · rw [Bool.not_eq_true] at hm
    rw [commit_of_quiet (.inl hm)]
    exact .settle hn hw (.inl hm)

theorem takes_generated (hn : s.flight? n = some (.generating code id))
    (answer : Except String (Option String)) :
    Takes s (.generated n answer) (s.generated n code id answer) := by
  cases answer with
  | error source => exact .fail hn
  | ok artifact =>
      by_cases hw : Writes code artifact
      · rw [generated_of_writes hw]
        exact takes_commit hn hw
      · rw [generated_of_not_writes hw]
        exact .pass hn hw

theorem takes_notified {notice : Notice S} {output : Output} {reply : ServerReply}
    {step : NoticeStep S} (hn : s.flight? n = some (.notifying notice output))
    (ha : notice.answer reply = some step) :
    Takes s (.replied n reply) (s.notified n output step) := by
  match step, ha with
  | .next next, ha => exact .advance hn ha
  | .over sent entry, ha => exact .finish hn ha

theorem takes_of_step (h : s.step e = some r) : Takes s e r := by
  cases e with
  | start n code id =>
      simp only [step] at h
      split at h
      · cases h
      · rename_i hn
        cases h
        exact takes_start (by simpa using hn)
  | generated n answer =>
      simp only [step] at h
      split at h
      · rename_i hn
        cases h
        exact takes_generated hn answer
      · cases h
  | replied n reply =>
      simp only [step] at h
      split at h
      · rename_i hn
        obtain ⟨step, ha, rfl⟩ := Option.map_eq_some_iff.mp h
        exact takes_notified hn ha
      · cases h
  | poll n =>
      simp only [step] at h
      split at h
      · rename_i hn
        obtain ⟨f, hf⟩ := Option.isSome_iff_exists.mp hn
        cases h
        exact .poll hf
      · cases h
  | drop n =>
      simp only [step] at h
      split at h
      · rename_i hn
        obtain ⟨f, hf⟩ := Option.isSome_iff_exists.mp hn
        cases h
        exact .drop hf
      · cases h
  | load id => cases h; exact .load id
  | resolve id => cases h; exact .resolve id
  | attach server => cases h; exact .attach server

theorem step_of_takes (h : Takes s e r) : s.step e = some r := by
  cases h with
  | skip hn hc => simp [step, start, hn, hc]
  | launch hn hc => simp [step, start, hn, hc]
  | fail hn => simp [step, hn, generated]
  | pass hn hw => simp [step, hn, generated_of_not_writes hw]
  | settle hn hw hq => simp [step, hn, generated_of_writes hw, commit_of_quiet hq]
  | notify hn hw hm hv => simp [step, hn, generated_of_writes hw, commit_of_modified hm hv]
  | advance hn ha => simp [step, hn, ha, notified]
  | finish hn ha => simp [step, hn, ha, notified]
  | poll hn => simp [step, hn]
  | drop hn => simp [step, hn]
  | load id => rfl
  | resolve id => rfl
  | attach server => rfl

/-- The rules say exactly what a step does. -/
theorem step_eq_some_iff : s.step e = some r ↔ Takes s e r := ⟨takes_of_step, step_of_takes⟩

end Session
end ScopedStyles
