import Mathlib.Logic.Function.Basic
import ScopedStyles.Proofs.Notice
import ScopedStyles.Proofs.Traces

/-! # Invalidations side by side

A notifier may have any number of invalidations under way while servers are attached to it.  Each
invalidation takes the server that it finds when it starts and stays with it: `Step` lists what can
happen to a notifier with its invalidations, and `Run` is any interleaving of such steps.

An invalidation that has found a server is at some place of one `Course`: a lookup, an invalidation
of the module found, a sending, each call made once the reply to the one before is there.  A step
takes a course one reply further (`Course.advance`, `Course.finish`), and so a run keeps every one
of its invalidations on its course (`Run.life`).  `Run.invalidations_apart` says what follows for
the calls, the results and the attached server (`Apart`). -/

namespace ScopedStyles

variable {S : Type}

/-! ### Replies that fit -/

/-- The reply is one to this kind of call. -/
def ServerReply.Fits : ServerCall → ServerReply → Prop
  | .lookup _, .found _ => True
  | .invalidate _, .invalidated _ => True
  | .send _, .sent _ => True
  | _, _ => False

theorem Notice.answer_of_fits {notice : Notice S} {reply : ServerReply}
    (h : reply.Fits notice.call) : ∃ step, notice.answer reply = some step := by
  obtain ⟨t, server, stage⟩ := notice
  cases stage with
  | lookup =>
      cases reply with
      | found id => cases id <;> exact ⟨_, rfl⟩
      | _ => cases h
  | invalidate m =>
      cases reply with
      | invalidated now => exact ⟨_, rfl⟩
      | _ => cases h
  | send p =>
      cases reply with
      | sent failure => cases failure <;> exact ⟨_, rfl⟩
      | _ => cases h

namespace Invalidations

/-! ### Steps -/

/-- A notifier, and the notices of its invalidations that wait for a server. -/
structure State (S : Type) where
  notifier : Notifier S
  notices : Nat → Option (Notice S)

/-- Puts a notice in the place of an invalidation's notice, or takes it away. -/
def State.put (s : State S) (n : Nat) (notice : Option (Notice S)) : State S :=
  { s with notices := Function.update s.notices n notice }

/-- What happens to a notifier.  Invalidations are told apart by numbers. -/
inductive Event (S : Type)
  | attach (server : S)
  | invalidate (n : Nat) (t : Token)
  | replied (n : Nat) (reply : ServerReply)
  /-- An invalidation is asked to go on before the reply is there. -/
  | poll (n : Nat)
  | drop (n : Nat)

/-- The invalidation that an event is about. -/
def Event.number? : Event S → Option Nat
  | .attach _ => none
  | .invalidate n _ | .replied n _ | .poll n | .drop n => some n

/-- What comes of an event: the calls that are made, the reports, and what the invalidation returns,
if it does. -/
structure Outcome (S : Type) where
  state : State S
  calls : List (S × ServerCall)
  log : List LogEntry
  result : Option Bool

/-- `Step s e r`: the notifier takes the event `e`, and `r` comes of it. -/
inductive Step (s : State S) : Event S → Outcome S → Prop
  | attach (server : S) :
      Step s (.attach server)
        ⟨{ s with notifier := (s.notifier.attach server).1 }, [], (s.notifier.attach server).2,
          none⟩
  /-- There is no server to tell. -/
  | alone {n : Nat} {t : Token} :
      s.notices n = none → s.notifier.notice? t = none →
      Step s (.invalidate n t) ⟨s, [], [], some false⟩
  /-- A notice sets out. -/
  | launch {n : Nat} {t : Token} {notice : Notice S} :
      s.notices n = none → s.notifier.notice? t = some notice →
      Step s (.invalidate n t)
        ⟨s.put n (some notice), [(notice.server, notice.call)], [], none⟩
  | advance {n : Nat} {notice next : Notice S} {reply : ServerReply} :
      s.notices n = some notice → notice.answer reply = some (.next next) →
      Step s (.replied n reply) ⟨s.put n (some next), [(next.server, next.call)], [], none⟩
  | finish {n : Nat} {notice : Notice S} {reply : ServerReply} {sent : Bool} {entry : LogEntry} :
      s.notices n = some notice → notice.answer reply = some (.over sent entry) →
      Step s (.replied n reply) ⟨s.put n none, [], [entry], some sent⟩
  | poll {n : Nat} {notice : Notice S} :
      s.notices n = some notice → Step s (.poll n) ⟨s, [], [], none⟩
  | drop {n : Nat} {notice : Notice S} :
      s.notices n = some notice → Step s (.drop n) ⟨s.put n none, [], [], none⟩

namespace State

variable (s : State S) (n : Nat) (notice : Option (Notice S))

@[simp] theorem notices_put_self : (s.put n notice).notices n = notice := by
  simp [put]

theorem notices_put_of_ne {m : Nat} (h : m ≠ n) : (s.put n notice).notices m = s.notices m := by
  simp [put, h]

theorem put_of_eq (h : s.notices n = notice) : s.put n notice = s := by
  subst h
  simp [put]

end State

namespace Step

variable {s : State S} {e : Event S} {r : Outcome S}

/-- A step is about one invalidation at most; all others stand where they stood. -/
theorem notices_of_ne (h : Step s e r) {n : Nat} (hn : e.number? ≠ some n) :
    r.state.notices n = s.notices n := by
  have ne {m : Nat} (h : some m ≠ some n) : n ≠ m := fun e => h (congrArg some e.symm)
  cases h with
  | attach server => rfl
  | alone _ _ => rfl
  | launch _ _ => exact s.notices_put_of_ne _ _ (ne hn)
  | advance _ _ => exact s.notices_put_of_ne _ _ (ne hn)
  | finish _ _ => exact s.notices_put_of_ne _ _ (ne hn)
  | poll _ => rfl
  | drop _ => exact s.notices_put_of_ne _ _ (ne hn)

theorem notifier_eq (h : Step s e r) (he : ∀ server, e ≠ .attach server) :
    r.state.notifier = s.notifier := by
  cases h with
  | attach server => exact absurd rfl (he server)
  | _ => rfl

end Step

/-! ### Runs -/

/-- One step of a run: the state before it, what happened, and what came of it. -/
structure Turn (S : Type) where
  before : State S
  event : Event S
  after : Outcome S

/-- Turns, oldest first. -/
abbrev Trace (S : Type) := List (Turn S)

/-- `Run n₀ h s`: the turns `h` lead from the notifier `n₀` without any invalidation to `s`.  Every
invalidation has a number of its own. -/
inductive Run (n₀ : Notifier S) : Trace S → State S → Prop
  | fresh : Run n₀ [] ⟨n₀, fun _ => none⟩
  | turn {h : Trace S} {s : State S} {e : Event S} {r : Outcome S} :
      Run n₀ h s → Step s e r →
      (∀ n t, e = .invalidate n t → ∀ u ∈ h, u.event.number? ≠ some n) →
      Run n₀ (h ++ [⟨s, e, r⟩]) r.state

def Event.reply? : Event S → Option ServerReply
  | .replied _ reply => some reply
  | _ => none

def Event.attached? : Event S → Option S
  | .attach server => some server
  | _ => none

namespace Trace

def turnsOf (h : Trace S) (n : Nat) : Trace S := h.filter fun u => u.event.number? = some n

def replies (h : Trace S) : List ServerReply := h.filterMap fun u => u.event.reply?

def calls (h : Trace S) : List (S × ServerCall) := h.flatMap fun u => u.after.calls

/-- What the invalidations returned, in their order. -/
def results (h : Trace S) : List Bool := h.filterMap fun u => u.after.result

/-- The server that is attached in the end: the last one of the history, or else the one that was
attached before it. -/
def serverFrom (h : Trace S) (n₀ : Notifier S) : Option S :=
  (h.filterMap fun u => u.event.attached?).getLast?.or n₀.server

section append
variable (h : Trace S) (u : Turn S)

theorem turnsOf_concat_self {n : Nat} (hu : u.event.number? = some n) :
    turnsOf (h ++ [u]) n = turnsOf h n ++ [u] := Traces.about_concat_self hu

theorem turnsOf_concat_of_ne {n : Nat} (hu : u.event.number? ≠ some n) :
    turnsOf (h ++ [u]) n = turnsOf h n := Traces.about_concat_of_ne hu

theorem replies_concat : replies (h ++ [u]) = replies h ++ u.event.reply?.toList :=
  Traces.filterMap_concat _

theorem calls_concat : calls (h ++ [u]) = calls h ++ u.after.calls := Traces.flatMap_concat _

theorem results_concat : results (h ++ [u]) = results h ++ u.after.result.toList :=
  Traces.filterMap_concat _

theorem serverFrom_concat (n₀ : Notifier S) :
    serverFrom (h ++ [u]) n₀ = u.event.attached?.or (serverFrom h n₀) := by
  unfold serverFrom
  rw [Traces.filterMap_concat]
  cases u.event.attached? <;> simp

end append

theorem turnsOf_eq_nil_iff {h : Trace S} {n : Nat} :
    turnsOf h n = [] ↔ ∀ u ∈ h, u.event.number? ≠ some n := Traces.about_eq_nil_iff

end Trace

open Trace

namespace Run

variable {n₀ : Notifier S} {h : Trace S} {s : State S}

theorem server_eq (run : Run n₀ h s) : s.notifier.server = serverFrom h n₀ := by
  induction run with
  | fresh => rfl
  | @turn h s e r run hstep hnew ih =>
      rw [serverFrom_concat]
      cases hstep with
      | attach server => rfl
      | _ => exact ih

theorem of_concat {u : Turn S} (run : Run n₀ (h ++ [u]) s) :
    Run n₀ h u.before ∧ Step u.before u.event u.after := by
  generalize hh : h ++ [u] = h' at run
  cases run with
  | fresh => simp at hh
  | turn run hstep hnew =>
      obtain ⟨rfl, hu⟩ := List.append_inj' hh rfl
      obtain rfl := List.singleton_inj.mp hu
      exact ⟨run, hstep⟩

/-- Every turn of a run is a step of the notifier that the turns before it lead to. -/
theorem split (run : Run n₀ h s) {h₁ h₂ : Trace S} {u : Turn S} (hh : h = h₁ ++ u :: h₂) :
    Run n₀ h₁ u.before ∧ Step u.before u.event u.after := by
  have hlast {h : Trace S} {u : Turn S} (hrun : ∃ s, Run n₀ (h ++ [u]) s) :
      (∃ s, Run n₀ h s) ∧ Run n₀ h u.before ∧ Step u.before u.event u.after := by
    obtain ⟨s, run⟩ := hrun
    exact ⟨⟨_, run.of_concat.1⟩, run.of_concat⟩
  subst hh
  exact (Traces.split (R := fun h => ∃ s, Run n₀ h s) hlast ⟨s, run⟩).2

end Run

/-! ### One invalidation of a run -/

/-- The turns of the invalidation `n` of `t`, which found `server?` attached when it started, and
its notice if it still waits for a server. -/
inductive Life (server? : Option S) (t : Token) (n : Nat) (us : Trace S) :
    Option (Notice S) → Prop
  /-- There was no server to tell. -/
  | alone :
      server? = none → replies us = [] → calls us = [] → results us = [false] →
      Life server? t n us none
  | waiting {notice : Notice S} :
      server? = some notice.server → notice.token = t →
      Course notice.server notice.address (replies us) (calls us) (.waits notice.stage) →
      results us = [] → Life server? t n us (some notice)
  | dropped {server : S} {stage : NoticeStage} :
      server? = some server →
      Course server (Address.ofToken t) (replies us) (calls us) (.waits stage) →
      results us = [] → (∃ u ∈ us, u.event = .drop n) → Life server? t n us none
  | returned {server : S} {sent : Bool} :
      server? = some server →
      Course server (Address.ofToken t) (replies us) (calls us) (.done sent) →
      results us = [sent] → Life server? t n us none

namespace Life

variable {server? : Option S} {t : Token} {n : Nat} {us : Trace S} {s : State S} {e : Event S}
  {r : Outcome S}

theorem start {r : Outcome S} (hs : Step s (.invalidate n t) r) :
    Life s.notifier.server t n [⟨s, .invalidate n t, r⟩] (r.state.notices n) := by
  cases hs with
  | alone hn hnone =>
      rw [hn]
      exact .alone (Option.map_eq_none_iff.mp hnone) rfl rfl rfl
  | launch hn hsome =>
      obtain ⟨server, hserver, rfl⟩ := Option.map_eq_some_iff.mp hsome
      rw [State.notices_put_self]
      exact .waiting hserver rfl .lookup rfl

theorem step (hl : Life server? t n us (s.notices n)) (hs : Step s e r)
    (he : e.number? = some n) (hno : ∀ t, e ≠ .invalidate n t) :
    Life server? t n (us ++ [⟨s, e, r⟩]) (r.state.notices n) := by
  have hreplies := replies_concat us ⟨s, e, r⟩
  have hcalls := calls_concat us ⟨s, e, r⟩
  have hresults := results_concat us ⟨s, e, r⟩
  cases hs with
  | attach server => cases he
  | alone _ _ =>
      cases he
      exact absurd rfl (hno _)
  | launch _ _ =>
      cases he
      exact absurd rfl (hno _)
  | advance hn ha =>
      cases he
      rw [hn] at hl
      cases hl with
      | waiting hserver ht hcourse hr =>
          obtain ⟨htoken, hv, -⟩ := Notice.answer_eq_next ha
          rw [State.notices_put_self]
          refine .waiting (hv ▸ hserver) (htoken.trans ht) ?_ ?_
          · rw [hreplies, hcalls]
            have hnext := hcourse.advance ha
            simp only [Notice.address, htoken, hv] at hnext ⊢
            exact hnext
          · rw [hresults, hr]
            rfl
  | finish hn ha =>
      cases he
      rw [hn] at hl
      cases hl with
      | waiting hserver ht hcourse hr =>
          have hdone := hcourse.finish ha
          rw [Notice.address, ht] at hdone
          rw [hr] at hresults
          rw [State.notices_put_self]
          refine .returned hserver ?_ hresults
          rw [hreplies, hcalls, List.append_nil]
          exact hdone
  | poll hn =>
      cases he
      rw [hn] at hl ⊢
      cases hl with
      | waiting hserver ht hcourse hr =>
          rw [hr] at hresults
          rw [← (hreplies.trans (List.append_nil _)), ← (hcalls.trans (List.append_nil _))]
            at hcourse
          exact .waiting hserver ht hcourse hresults
  | drop hn =>
      cases he
      rw [hn] at hl
      cases hl with
      | waiting hserver ht hcourse hr =>
          rw [hr] at hresults
          rw [Notice.address, ht, ← (hreplies.trans (List.append_nil _)),
            ← (hcalls.trans (List.append_nil _))] at hcourse
          rw [State.notices_put_self]
          exact .dropped hserver hcourse hresults
            ⟨_, List.mem_append_right _ List.mem_cons_self, rfl⟩

end Life

/-- In a run every invalidation that was started stays on its course. -/
theorem Run.life {n₀ : Notifier S} {h : Trace S} {s : State S} (run : Run n₀ h s) {u : Turn S}
    (hu : u ∈ h) {n : Nat} {t : Token} (he : u.event = .invalidate n t) :
    Life u.before.notifier.server t n (turnsOf h n) (s.notices n) := by
  have hun : u.event.number? = some n := by
    rw [he]
    rfl
  induction run with
  | fresh => cases hu
  | @turn h s e r run hstep hnew ih =>
      rcases List.mem_append.mp hu with hu | hu
      · have hl := ih hu
        by_cases hn : e.number? = some n
        · rw [turnsOf_concat_self h _ hn]
          refine hl.step hstep hn fun t' he' => ?_
          -- Its number would be used twice.
          exact hnew n t' he' u hu hun
        · rw [turnsOf_concat_of_ne h _ hn, hstep.notices_of_ne hn]
          exact hl
      · obtain rfl := List.mem_singleton.mp hu
        simp only at he
        subst he
        rw [turnsOf_concat_self h _ hun, turnsOf_eq_nil_iff.mpr (hnew n t rfl)]
        exact Life.start hstep

/-! ### The main statement -/

/-- The protocol of an invalidation that found `server?` attached when it started: the replies it
got, the calls it made and what it returned. -/
structure Conforms (server? : Option S) (address : String) (replies : List ServerReply)
    (calls : List (S × ServerCall)) (results : List Bool) : Prop where
  /-- Every call goes to the server that was attached at the start. -/
  server : ∀ c ∈ calls, server? = some c.1
  /-- Without one no call is made. -/
  alone : server? = none → calls = [] ∧ results = [false]
  /-- The calls are an initial part of a lookup of the address, an invalidation and a sending. -/
  order : ∃ m now, calls.map Prod.snd <+:
    [.lookup address, .invalidate m, .send (.single address now)]
  /-- The module that is invalidated is the one that the lookup returned. -/
  module : ∀ m, .invalidate m ∈ calls.map Prod.snd → replies.head? = some (.found (some m))
  /-- The message that is sent has one update, of the address. -/
  payload : ∀ p, .send p ∈ calls.map Prod.snd →
    ∃ update, p = .update [update] ∧ update.path = address ∧ update.acceptedPath = address
  /-- A missing module ends the invalidation after the lookup. -/
  missing : .found none ∈ replies →
    calls.map Prod.snd = [.lookup address] ∧ results = [false]
  /-- It returns `true` if the lookup found a module and the sending succeeded, and only then, -/
  success : results = [true] ↔ (∃ m, .found (some m) ∈ replies) ∧ .sent none ∈ replies
  /-- and `false` if there was no server, no module, or no success. -/
  failure : results = [false] ↔
    server? = none ∨ .found none ∈ replies ∨ ∃ error, .sent (some error) ∈ replies

theorem Conforms.of_none (address : String) :
    Conforms (none : Option S) address [] [] [false] := by
  constructor <;> simp

theorem Conforms.of_course {server : S} {address : String} {replies : List ServerReply}
    {calls : List (S × ServerCall)} {stand : Stand}
    (h : Course server address replies calls stand) :
    Conforms (some server) address replies calls stand.results := by
  cases h with
  | lookup => constructor <;> simp [Stand.results]
  | missing => constructor <;> simp [Stand.results]
  | invalidate m => constructor <;> simp [Stand.results]
  | send m now => constructor <;> simp [Stand.results, Payload.single]
  | sent m now failure =>
      cases failure <;> constructor <;> simp [Stand.results, Payload.single]

/-- The invalidation waits for the reply to the last of its calls, and takes every one that fits. -/
def Waits (s : State S) (n : Nat) (calls : List (S × ServerCall)) : Prop :=
  ∃ c, calls.getLast? = some c ∧
    ∀ reply : ServerReply, reply.Fits c.2 → ∃ r, Step s (.replied n reply) r

theorem Step.of_fits {s : State S} {n : Nat} {notice : Notice S} {reply : ServerReply}
    (hn : s.notices n = some notice) (h : reply.Fits notice.call) :
    ∃ r, Step s (.replied n reply) r := by
  match Notice.answer_of_fits h with
  | ⟨.next next, ha⟩ => exact ⟨_, .advance hn ha⟩
  | ⟨.over sent entry, ha⟩ => exact ⟨_, .finish hn ha⟩

namespace Life

variable {server? : Option S} {t : Token} {n : Nat} {us : Trace S} {s : State S}

theorem conforms {notice : Option (Notice S)} (h : Life server? t n us notice) :
    Conforms server? (Address.ofToken t) (replies us) (calls us) (results us) := by
  cases h with
  | alone hnone hreplies hcalls hresults =>
      rw [hnone, hreplies, hcalls, hresults]
      exact .of_none _
  | waiting hserver ht hcourse hresults =>
      rw [hserver, hresults, ← ht]
      exact .of_course hcourse
  | dropped hserver hcourse hresults _ =>
      rw [hserver, hresults]
      exact .of_course hcourse
  | returned hserver hcourse hresults =>
      rw [hserver, hresults]
      exact .of_course hcourse

/-- An invalidation returns once, unless it was dropped or waits. -/
theorem returns (h : Life server? t n us (s.notices n)) :
    (∃ result, results us = [result]) ∨
      results us = [] ∧ ((∃ u ∈ us, u.event = .drop n) ∨ Waits s n (calls us)) := by
  generalize hnotice : s.notices n = notice at h
  cases h with
  | alone _ _ _ hresults => exact .inl ⟨_, hresults⟩
  | waiting _ _ hcourse hresults =>
      refine .inr ⟨hresults, .inr ⟨_, hcourse.getLast?_calls, fun reply hfits => ?_⟩⟩
      exact Step.of_fits hnotice hfits
  | dropped _ _ hresults hdrop => exact .inr ⟨hresults, .inl hdrop⟩
  | returned _ _ hresults => exact .inl ⟨_, hresults⟩

end Life

/-- A run of a notifier, as far as its servers can tell. -/
structure Apart (n₀ : Notifier S) (h : Trace S) (s : State S) : Prop where
  /-- The server that was attached last is attached, -/
  attached : s.notifier.server = serverFrom h n₀
  /-- and no invalidation changes which one it is. -/
  kept : ∀ u ∈ h, (∀ server, u.event ≠ .attach server) →
    u.after.state.notifier = u.before.notifier
  /-- Every invalidation keeps to the protocol with the server that was attached when it started,
  whatever happens in between. -/
  conforms : ∀ h₁ u h₂ n t, h = h₁ ++ u :: h₂ → u.event = .invalidate n t →
    Conforms (serverFrom h₁ n₀) (Address.ofToken t) (replies (turnsOf h n)) (calls (turnsOf h n))
      (results (turnsOf h n))
  /-- It returns once, unless it was dropped or waits for a reply. -/
  returns : ∀ u ∈ h, ∀ n t, u.event = .invalidate n t →
    (∃ result, results (turnsOf h n) = [result]) ∨
      results (turnsOf h n) = [] ∧
        ((∃ v ∈ turnsOf h n, v.event = .drop n) ∨ Waits s n (calls (turnsOf h n)))

/-- **Invalidations side by side.** -/
theorem Run.invalidations_apart {n₀ : Notifier S} {h : Trace S} {s : State S}
    (run : Run n₀ h s) : Apart n₀ h s where
  attached := run.server_eq
  kept u hu hno := by
    obtain ⟨h₁, h₂, hh⟩ := List.append_of_mem hu
    exact (run.split hh).2.notifier_eq hno
  conforms h₁ u h₂ n t hh he := by
    have hu : u ∈ h := by
      rw [hh]
      exact List.mem_append_right _ List.mem_cons_self
    rw [← (run.split hh).1.server_eq]
    exact (run.life hu he).conforms
  returns _ hu _ _ he := (run.life hu he).returns

/-- Another server is attached while an invalidation waits for the first one, which knows the module
by another id; a second invalidation is dropped. -/
theorem invalidations_apart_two_servers : ∃ (h : Trace String) (s : State String) (t u : Token),
    Run .empty h s ∧ Apart .empty h s ∧ t ≠ u ∧
      calls (turnsOf h 0) = [("A", .lookup (Address.ofToken t)), ("A", .invalidate "/m.css?v"),
        ("A", .send (.single (Address.ofToken t) 7))] ∧
      results (turnsOf h 0) = [true] ∧
      calls (turnsOf h 1) = [("B", .lookup (Address.ofToken u))] ∧ results (turnsOf h 1) = [] ∧
      s.notifier.server = some "B" := by
  have run₀ : Run (Notifier.empty : Notifier String) [] _ := .fresh
  have run₂ := (run₀.turn (.attach "A") (by simp)).turn (.launch rfl rfl)
    (e := .invalidate 0 ⟨0, 0, 0, 1⟩) (by simp [Event.number?])
  have run₄ := (run₂.turn (.attach "B") (by simp)).turn (.launch rfl rfl)
    (e := .invalidate 1 ⟨0, 0, 0, 2⟩) (by simp [Event.number?])
  have run₆ := (run₄.turn (.advance rfl rfl) (e := .replied 0 (.found (some "/m.css?v")))
    (by simp)).turn (.drop rfl) (e := .drop 1) (by simp)
  have run₈ := (run₆.turn (.advance rfl rfl) (e := .replied 0 (.invalidated 7)) (by simp)).turn
    (.finish rfl rfl) (e := .replied 0 (.sent none)) (by simp)
  exact ⟨_, _, ⟨0, 0, 0, 1⟩, ⟨0, 0, 0, 2⟩, run₈, run₈.invalidations_apart, by decide, rfl, rfl, rfl,
    rfl, rfl⟩

end Invalidations
end ScopedStyles
