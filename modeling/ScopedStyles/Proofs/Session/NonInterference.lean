import ScopedStyles.Proofs.Session.HotUpdates
import ScopedStyles.Proofs.Session.Restriction

/-! # Files do not interfere

The transforms of a session share the registry, the server and the notices that go to it, but what a
transform does is visible under the token of its own file only.  `Run.noninterference` compares a
run with the run of the same events without the transforms of other tokens: there is such a run, and
in it the entry of the token, the loads of its address, the requests to the generator, the results
and the calls to servers are the same (`NonInterference`).

Files may share a token; they count as one here. -/

namespace ScopedStyles

open History

variable {S : Type}

/-! ### The part of a token -/

/-- The token of the file that a transform was started on. -/
def History.token? (h : History S) (n : Nat) : Option Token :=
  (file? (turnsOf h n)).map fun file => .ofIdentity file.2

/-- The turns of the host and of the transforms of one token. -/
def History.ofToken (h : History S) (t : Token) : History S := h.only fun n => h.token? n = some t

/-- The calls that transforms make with news of a token. -/
def History.callsFor (h : History S) (t : Token) : List (S × ServerCall) :=
  calls (h.filter fun u => u.token? = some t)

/-- Whether a call looks an address up or broadcasts it. -/
def ServerCall.names (address : String) (c : ServerCall) : Bool :=
  c = .lookup address || c.updates address

/-! ### Tokens of transforms -/

namespace Session.Takes

variable {s : Session S} {e : Event S} {r : Stepped S}

theorem token?_of_names (ht : Takes s e r) {p : S × ServerCall}
    (hp : p ∈ Turn.calls ⟨s, e, r⟩) {t : Token} (hn : p.2.names (Address.ofToken t) = true) :
    Turn.token? ⟨s, e, r⟩ = some t := by
  obtain ⟨n, f, he, hf⟩ := ht.flight?_of_calls (List.ne_nil_of_mem hp)
  cases ht with
  | @notify n code id artifact server hg _ _ _ =>
      obtain rfl := List.mem_singleton.mp hp
      have ht : Token.ofIdentity id = t := by simpa [ServerCall.names, ServerCall.updates] using hn
      simp [Turn.token?, Event.flight?, hg, Flight.token, ht]
  | @advance n notice next output reply hg ha =>
      obtain rfl := List.mem_singleton.mp hp
      have ht : notice.token = t := by
        obtain ⟨-, -, ⟨m, -, -, hs⟩ | ⟨m, now, -, -, hs⟩⟩ := Notice.answer_eq_next ha
        · simp [Notice.call, hs, ServerCall.names, ServerCall.updates] at hn
        · simpa [Notice.call, hs, ServerCall.names, ServerCall.updates, Payload.single,
            Notice.address] using hn
      simp [Turn.token?, Event.flight?, hg, Flight.token, ht]
  | skip _ _ => cases hp
  | launch _ _ => cases hp
  | fail _ => cases hp
  | pass _ _ => cases hp
  | settle _ _ _ => cases hp
  | finish _ _ => cases hp
  | poll _ => cases hp
  | drop _ => cases hp
  | _ => cases he

end Session.Takes

namespace Run

variable {filter : Filter} {h : History S} {s : Session S}

theorem token?_of_start (run : Run filter h s) {u : Turn S} (hu : u ∈ h) {n : Nat}
    {code id : String} (he : u.event = .start n code id) :
    h.token? n = some (.ofIdentity id) := by
  unfold History.token?
  rw [run.file?_turnsOf_iff.mpr ⟨u, hu, he⟩]
  rfl

/-- A transform carries the token of its file all along. -/
theorem token?_of_flight (run : Run filter h s) {n : Nat} {f : Flight S}
    (hf : s.flight? n = some f) : h.token? n = some f.token := by
  have hl := run.life n
  rw [hf] at hl
  unfold History.token?
  cases hl with
  | generating hfile _ _ _ => rw [hfile]; rfl
  | notifying hfile _ _ ht _ _ _ =>
      rw [hfile]
      exact congrArg some ht.symm

theorem token?_of_turn (run : Run filter h s) {u : Turn S} (hu : u ∈ h) {n : Nat} {f : Flight S}
    (hf : u.before.flight? n = some f) : h.token? n = some f.token := by
  obtain ⟨h₁, h₂, rfl, run₁, -⟩ := run.split hu
  have ht := run₁.token?_of_flight hf
  obtain ⟨⟨code, id⟩, hfile, ht'⟩ := Option.map_eq_some_iff.mp ht
  obtain ⟨v, hv, he⟩ := run₁.file?_turnsOf_iff.mp hfile
  rw [run.token?_of_start (List.mem_append_left _ hv) he, ← ht']

theorem token?_of_commit (run : Run filter h s) {c : Commit} (hc : c ∈ commits h) :
    h.token? c.flight = some c.token := by
  have hcs := run.commits_turnsOf hc
  unfold History.token?
  rcases (run.life c.flight).outcome with ⟨hnil, -, -⟩ | ⟨d, hfile, hd, -, -⟩
  · rw [hcs] at hnil
    cases hnil
  · obtain rfl : c = d := List.singleton_inj.mp (hcs.symm.trans hd)
    rw [hfile]
    rfl

theorem callsFor_eq (run : Run filter h s) (t : Token) :
    h.callsFor t = calls (h.ofToken t) := by
  refine calls_filter_congr fun u hu hc => ?_
  obtain ⟨n, f, he, hf⟩ := (run.takes_of_mem hu).flight?_of_calls hc
  simp [Turn.token?, he, hf, run.token?_of_turn hu hf]

end Run

/-! ### The main statement -/

/-- What happens under a token does not depend on the transforms of other tokens. -/
structure NonInterference (filter : Filter) (t : Token) (h : History S) : Prop where
  /-- Without the transforms of other tokens, everything else can happen as before, with the same
  answers of the generator and the same replies of the servers. -/
  comparable : ∃ (h' : History S) (s' : Session S), Run filter h' s' ∧
    events h' = events (h.ofToken t)
  /-- Turn by turn, the entry of the token, the loads of its address and of all ids that are no
  address of another token, the requests, the log and the results are then the same. -/
  alike : ∀ (h' : History S) (s' : Session S), Run filter h' s' →
    events h' = events (h.ofToken t) → List.Forall₂ (Turn.Alike (· = t)) (h.ofToken t) h'
  /-- The calls to servers are those that were made with news of the token. -/
  calls_eq : ∀ (h' : History S) (s' : Session S), Run filter h' s' →
    events h' = events (h.ofToken t) → calls h' = h.callsFor t
  /-- No other call looks the address of the token up or broadcasts it. -/
  named : ∀ u ∈ h, ∀ p ∈ u.calls, p.2.names (Address.ofToken t) = true → u.token? = some t

/-- **Files do not interfere.** -/
theorem Run.noninterference {filter : Filter} {h : History S} {s : Session S}
    (run : Run filter h s) (t : Token) : NonInterference filter t h := by
  have hkept : ∀ u ∈ h, ∀ n code id, u.event = .start n code id →
      (decide (h.token? n = some t)) = true → Token.ofIdentity id = t := by
    intro u hu n code id he hn
    have hid := (run.token?_of_start hu he).symm.trans (of_decide_eq_true hn)
    exact Option.some.inj hid
  have hleft : ∀ c ∈ commits h, (decide (h.token? c.flight = some t)) = false →
      ¬ c.token = t := by
    intro c hc hn ht
    refine of_decide_eq_false hn ?_
    rw [run.token?_of_commit hc, ht]
  have alike {h' : History S} {s' : Session S} (run' : Run filter h' s')
      (he : events h' = events (h.ofToken t)) :
      List.Forall₂ (Turn.Alike (· = t)) (h.ofToken t) h' :=
    (run.alike_of_events hkept hleft run' he).1
  refine ⟨?_, fun h' s' run' he => alike run' he, fun h' s' run' he => ?_,
    fun u hu p hp hn => (run.takes_of_mem hu).token?_of_names hp hn⟩
  · obtain ⟨h', s', run', ha, -⟩ := run.exists_only (T := (· = t)) hkept hleft
    exact ⟨h', s', run', events_eq_of_alike ha⟩
  · rw [run.callsFor_eq]
    exact calls_eq_of_alike (alike run' he)
      (fun u hu => run.takes_of_mem (mem_of_mem_only hu)) fun v hv => run'.takes_of_mem hv

/-- Two files in one session, and a server that answers the lookup of one with the module of the
other. -/
theorem noninterference_two_files :
    ∃ (h : History String) (s : Session String), Run .all h s ∧
      h.length = 13 ∧ (h.ofToken (.ofIdentity "/src/a.ts")).length = 8 ∧
      h.callsFor (.ofIdentity "/src/a.ts") =
        [("v", .lookup (Address.ofToken (.ofIdentity "/src/a.ts"))), ("v", .invalidate "m"),
          ("v", .send (.single (Address.ofToken (.ofIdentity "/src/a.ts")) 0))] ∧
      NonInterference .all (.ofIdentity "/src/a.ts") h := by
  obtain ⟨h, s, run, hp⟩ := exists_run_of_follow? .all
    [.start 0 "" "/src/b.ts", .attach "v", .start 1 "" "/src/a.ts",
      .generated 0 (.ok (some "x")), .generated 1 (.ok (some "y")),
      .replied 0 (.found (some (Address.ofToken (.ofIdentity "/src/a.ts")))), .attach "w",
      .replied 1 (.found (some "m")), .replied 0 (.invalidated 0), .drop 0,
      .replied 1 (.invalidated 0), .replied 1 (.sent none),
      .load (Address.ofToken (.ofIdentity "/src/b.ts"))]
    (fun q => q.1.length = 13 ∧ (q.1.ofToken (.ofIdentity "/src/a.ts")).length = 8 ∧
      q.1.callsFor (.ofIdentity "/src/a.ts") =
        [("v", .lookup (Address.ofToken (.ofIdentity "/src/a.ts"))), ("v", .invalidate "m"),
          ("v", .send (.single (Address.ofToken (.ofIdentity "/src/a.ts")) 0))])
    (by decide +kernel)
  obtain ⟨h₁, h₂, h₃⟩ := of_decide_eq_true hp
  exact ⟨h, s, run, h₁, h₂, h₃, run.noninterference _⟩

end ScopedStyles
