import ScopedStyles.Host.Server
import ScopedStyles.Proofs.Session.Commits

/-! # Hot updates are sent once

A write that reports a modification while a server is attached leads to one lookup of the module's
address, then, if the module is found, to one invalidation and one broadcast, and to nothing else
(`Life`).  This module keeps the accounts over a whole run: for a token, the announcing writes, the
calls of each kind, what the log says about them, the transforms that wait for a call and those that
were dropped while they waited.

`Balanced` is the balance of these accounts over a stretch of a run.  It holds of every step
(`Session.Takes.balanced`) and adds up (`Balanced.append`), so it holds of every run; with nothing
dropped and nothing waiting it says that every announcing write is looked up once, and that each
lookup ends in one entry of the log. -/

namespace ScopedStyles

open History
open Host (CallKind kindOf)

variable {S : Type}

/-! ### The accounts -/

/-- The token whose entry a transform is about. -/
def Flight.token : Flight S → Token
  | .generating _ id => Token.ofIdentity id
  | .notifying notice _ => notice.token

/-- Whether a notice is about a token and waits for a call of a kind. -/
def Notice.waitsFor (n : Notice S) (t : Token) (k : CallKind) : Bool :=
  n.token = t ∧ kindOf n.call = k

/-- Whether a transform waits for a call of a kind, with news of a token. -/
def Flight.waitsFor (t : Token) (k : CallKind) : Flight S → Bool
  | .generating _ _ => false
  | .notifying notice _ => notice.waitsFor t k

/-- How many transforms wait for a call of a kind, with news of a token. -/
def Session.waiting (s : Session S) (t : Token) (k : CallKind) : Nat :=
  s.flights.countP fun f => f.2.waitsFor t k

/-- Whether a call broadcasts one update, and of this address. -/
def ServerCall.updates (address : String) : ServerCall → Bool
  | .send (.update [u]) => u.acceptedPath = address && u.path = address
  | _ => false

/-- The address that an entry tells the end of a notice of. -/
def LogEntry.notified? : LogEntry → Option String
  | .notInGraph a | .updateSent a | .updateFailed a _ => some a
  | _ => none

/-- Whether an entry says that the update of an address could not be sent. -/
def LogEntry.fails (address : String) : LogEntry → Bool
  | .updateFailed a _ => a = address
  | _ => false

namespace Turn

/-- The token of the transform that goes on in a turn. -/
def token? (u : Turn S) : Option Token := (u.event.flight?.bind u.before.flight?).map Flight.token

/-- Whether a turn writes a modification of a token while a server is attached. -/
def announces (u : Turn S) (t : Token) : Bool :=
  match u.commit?, u.change? with
  | some c, some change => c.token = t && change.isModified && u.before.notifier.isAttached
  | _, _ => false

theorem announces_of_change? {s : Session S} {r : Stepped S} {n : Nat} {code id : String}
    {artifact : Option String} {change : Change} (hn : s.flight? n = some (.generating code id))
    (hc : change? ⟨s, .generated n (.ok artifact), r⟩ = some change) (t : Token) :
    announces ⟨s, .generated n (.ok artifact), r⟩ t =
      (Token.ofIdentity id = t && change.isModified && s.notifier.isAttached) := by
  unfold announces
  rw [commit?_of_change? hn hc, hc]
  rfl

/-- Whether a turn drops a transform that waits for a call of a kind, with news of a token. -/
def drops (u : Turn S) (t : Token) (k : CallKind) : Bool :=
  match u.event with
  | .drop n => (u.before.flight? n).any (·.waitsFor t k)
  | _ => false

theorem announces_iff {u : Turn S} {t : Token} :
    u.announces t = true ↔ ∃ c server, u.Announces c server ∧ c.token = t := by
  unfold announces Announces
  cases u.commit? with
  | none => simp
  | some c =>
      cases u.change? with
      | none => simp
      | some change => simp [Notifier.isAttached, Option.isSome_iff_exists, and_assoc, and_comm]

end Turn

namespace History

/-- The writes that modified the entry of a token while a server was attached. -/
def announcements (h : History S) (t : Token) : Nat := h.countP (·.announces t)

def lookups (h : History S) (address : String) : Nat :=
  (calls h).countP fun p => p.2 = .lookup address

/-- The invalidations that transforms ask for with news of a token. -/
def invalidations (h : History S) (t : Token) : Nat :=
  (calls (h.filter fun u => u.token? = some t)).countP fun p => kindOf p.2 = .invalidate

def sends (h : History S) (address : String) : Nat := (calls h).countP fun p => p.2.updates address

/-- The entries of the log that say that an address is not in the graph. -/
def missed (h : History S) (address : String) : Nat := (log h).count (.notInGraph address)

/-- The entries of the log that say that an update went out. -/
def sent (h : History S) (address : String) : Nat := (log h).count (.updateSent address)

/-- The entries of the log that say that an update could not be sent. -/
def failed (h : History S) (address : String) : Nat := (log h).countP (·.fails address)

/-- The transforms that were dropped while they waited for a call. -/
def dropped (h : History S) (t : Token) (k : CallKind) : Nat := h.countP (·.drops t k)

end History

/-- From `s`, the turns `us` lead to `s'`, and the accounts of the token balance: what comes to a
kind of call, or waited for it before, has gone on, waits for it still, or was dropped. -/
structure Balanced (t : Token) (s : Session S) (us : History S) (s' : Session S) : Prop where
  lookups_eq : lookups us (Address.ofToken t) = announcements us t
  lookup : lookups us (Address.ofToken t) + s.waiting t .lookup =
    missed us (Address.ofToken t) + invalidations us t + s'.waiting t .lookup +
      dropped us t .lookup
  invalidate : invalidations us t + s.waiting t .invalidate =
    sends us (Address.ofToken t) + s'.waiting t .invalidate + dropped us t .invalidate
  send : sends us (Address.ofToken t) + s.waiting t .send =
    sent us (Address.ofToken t) + failed us (Address.ofToken t) + s'.waiting t .send +
      dropped us t .send

theorem Balanced.append {t : Token} {s s' s'' : Session S} {us vs : History S}
    (h : Balanced t s us s') (h' : Balanced t s' vs s'') : Balanced t s (us ++ vs) s'' := by
  obtain ⟨h₀, h₁, h₂, h₃⟩ := h
  obtain ⟨k₀, k₁, k₂, k₃⟩ := h'
  simp only [lookups, announcements, missed, invalidations, dropped, sends, sent, failed, calls,
    log] at h₀ h₁ h₂ h₃ k₀ k₁ k₂ k₃
  constructor <;>
    simp only [lookups, announcements, missed, invalidations, dropped, sends, sent, failed, calls,
      log, List.flatMap_append, List.filter_append, List.countP_append, List.count_append] <;>
    omega

/-! ### Who waits -/

namespace Session

/-- Transforms in flight have numbers of their own. -/
def Distinct (s : Session S) : Prop := s.flights.Pairwise fun f g => f.1 ≠ g.1

theorem countP_filter_ne (n : Nat) (p : Flight S → Bool) :
    ∀ {l : List (Nat × Flight S)}, (l.Pairwise fun f g => f.1 ≠ g.1) →
      (l.filter fun f => f.1 ≠ n).countP (fun f => p f.2) + (l.lookup n).toList.countP p =
        l.countP fun f => p f.2
  | [], _ => rfl
  | (m, f) :: l, h => by
      obtain ⟨hm, hl⟩ := List.pairwise_cons.mp h
      by_cases hn : m = n
      · subst hn
        have hrest : l.filter (fun f => f.1 ≠ m) = l :=
          List.filter_eq_self.mpr fun g hg => by simpa using (hm g hg).symm
        rw [List.filter_cons_of_neg (by simp), hrest, List.lookup_cons_self, List.countP_cons]
        simp [List.countP_cons]
      · have ih := countP_filter_ne n p hl
        rw [List.filter_cons_of_pos (by simp [hn]), List.lookup_cons,
          beq_eq_false_iff_ne.mpr (Ne.symm hn), List.countP_cons, List.countP_cons]
        simp only
        omega

variable {s : Session S} {t : Token} {k : CallKind}

@[simp] theorem waiting_stored (id : String) (artifact : Option String) :
    (s.stored id artifact).waiting t k = s.waiting t k := rfl

theorem waiting_land (hd : s.Distinct) (n : Nat) :
    (s.land n).waiting t k + (s.flight? n).toList.countP (·.waitsFor t k) = s.waiting t k :=
  countP_filter_ne n (·.waitsFor t k) hd

theorem waiting_fly (hd : s.Distinct) (n : Nat) (f : Flight S) :
    (s.fly n f).waiting t k + (s.flight? n).toList.countP (·.waitsFor t k) =
      s.waiting t k + [f].countP (·.waitsFor t k) := by
  have h := waiting_land (t := t) (k := k) hd n
  have hcons : (s.fly n f).waiting t k = (s.land n).waiting t k + [f].countP (·.waitsFor t k) := by
    unfold waiting fly
    rw [List.countP_cons, List.countP_singleton]
  omega

theorem Distinct.land (hd : s.Distinct) (n : Nat) : (s.land n).Distinct := List.Pairwise.filter _ hd

theorem Distinct.fly (hd : s.Distinct) (n : Nat) (f : Flight S) : (s.fly n f).Distinct := by
  refine List.pairwise_cons.mpr ⟨fun g hg => ?_, hd.land n⟩
  obtain ⟨-, hg⟩ := List.mem_filter.mp hg
  exact (of_decide_eq_true hg).symm

theorem Distinct.step {e : Event S} {r : Stepped S} (hd : s.Distinct) (ht : s.Takes e r) :
    r.session.Distinct := by
  cases ht with
  | launch _ _ => exact hd.fly _ _
  | fail _ => exact hd.land _
  | pass _ _ => exact hd.land _
  | settle _ _ _ => exact Distinct.land (s := s.stored _ _) hd _
  | notify _ _ _ _ => exact Distinct.fly (s := s.stored _ _) hd _ _
  | advance _ _ => exact hd.fly _ _
  | finish _ _ => exact hd.land _
  | drop _ => exact hd.land _
  | _ => exact hd

end Session

/-! ### The balance of a step -/

section step
variable {t : Token} {s s' : Session S} {u : Turn S}

theorem log_counts {a : String} (hl : ∀ e ∈ u.log, e.notified? ≠ some a) :
    missed [u] a = 0 ∧ sent [u] a = 0 ∧ failed [u] a = 0 := by
  have hlog : ∀ e ∈ log [u], e.notified? ≠ some a := by
    rw [log, List.flatMap_singleton]
    exact hl
  refine ⟨List.count_eq_zero.mpr fun h => hlog _ h rfl,
    List.count_eq_zero.mpr fun h => hlog _ h rfl, List.countP_eq_zero.mpr fun e he hf => ?_⟩
  cases e with
  | updateFailed b _ => exact hlog _ he (congrArg some (of_decide_eq_true hf))
  | _ => cases hf

theorem invalidations_eq_zero (hc : u.calls = []) : invalidations [u] t = 0 := by
  unfold invalidations calls
  by_cases ht : u.token? = some t <;> simp [ht, hc]

/-- A turn that has nothing to do with the token, and after which the same transforms wait. -/
theorem Balanced.aside
    (hc : ∀ p ∈ u.calls, p.2 ≠ .lookup (Address.ofToken t) ∧
      p.2.updates (Address.ofToken t) = false)
    (hi : u.calls = [] ∨ u.token? ≠ some t) (ha : u.announces t = false)
    (hl : ∀ e ∈ u.log, e.notified? ≠ some (Address.ofToken t)) (hd : ∀ k, u.drops t k = false)
    (hw : ∀ k, s'.waiting t k = s.waiting t k) : Balanced t s [u] s' := by
  have hlookups : lookups [u] (Address.ofToken t) = 0 := by
    refine List.countP_eq_zero.mpr fun p hp => ?_
    rw [calls, List.flatMap_singleton] at hp
    simpa using (hc p hp).1
  have hsends : sends [u] (Address.ofToken t) = 0 := by
    refine List.countP_eq_zero.mpr fun p hp => ?_
    rw [calls, List.flatMap_singleton] at hp
    simpa using (hc p hp).2
  have hinvalidations : invalidations [u] t = 0 := by
    rcases hi with hi | hi
    · exact invalidations_eq_zero hi
    · simp [invalidations, calls, hi]
  obtain ⟨hmissed, hsent, hfailed⟩ := log_counts hl
  constructor <;>
    simp [hlookups, hsends, hinvalidations, hmissed, hsent, hfailed, announcements, dropped, ha, hd,
      hw]

/-- A turn that calls nobody, announces nothing and ends no notice. -/
theorem Balanced.silent (hc : u.calls = []) (ha : u.announces t = false)
    (hl : ∀ e ∈ u.log, e.notified? = none) (hd : ∀ k, u.drops t k = false)
    (hw : ∀ k, s'.waiting t k = s.waiting t k) : Balanced t s [u] s' := by
  refine .aside (fun p hp => ?_) (.inl hc) ha (fun e he h => ?_) hd hw
  · rw [hc] at hp
    cases hp
  · rw [hl e he] at h
    cases h

theorem Balanced.notify {server : S} (hc : u.calls = [(server, .lookup (Address.ofToken t))])
    (ha : u.announces t = true) (hl : ∀ e ∈ u.log, e.notified? = none)
    (hd : ∀ k, u.drops t k = false)
    (hw : ∀ k, s'.waiting t k =
      s.waiting t k + if (⟨t, server, .lookup⟩ : Notice S).waitsFor t k then 1 else 0) :
    Balanced t s [u] s' := by
  obtain ⟨hmissed, hsent, hfailed⟩ : missed [u] (Address.ofToken t) = 0 ∧
      sent [u] (Address.ofToken t) = 0 ∧ failed [u] (Address.ofToken t) = 0 :=
    log_counts fun e he h => by rw [hl e he] at h; cases h
  have hinvalidations : invalidations [u] t = 0 := by
    unfold invalidations calls
    by_cases ht : u.token? = some t <;> simp [ht, hc, kindOf]
  constructor <;>
    simp [lookups, sends, calls, hc, ServerCall.updates, hinvalidations, hmissed, hsent, hfailed,
      announcements, dropped, ha, hd, hw, Notice.waitsFor, Notice.call, kindOf, Nat.add_comm]

theorem Balanced.advance {notice next : Notice S} {reply : ServerReply}
    (hn : notice.answer reply = some (.next next)) (hk : u.token? = some notice.token)
    (hc : u.calls = [(next.server, next.call)]) (hl : u.log = [])
    (ha : u.announces notice.token = false) (hd : ∀ k, u.drops notice.token k = false)
    (hw : ∀ k, s'.waiting notice.token k + (if notice.waitsFor notice.token k then 1 else 0) =
      s.waiting notice.token k + if next.waitsFor notice.token k then 1 else 0) :
    Balanced notice.token s [u] s' := by
  have w₁ := hw .lookup
  have w₂ := hw .invalidate
  have w₃ := hw .send
  obtain ⟨htok, -, ⟨m, hs, -, hs'⟩ | ⟨m, now, hs, -, hs'⟩⟩ := Notice.answer_eq_next hn
  · have hcall : notice.call = .lookup notice.address := by simp [Notice.call, hs]
    have hcall' : next.call = .invalidate m := by simp [Notice.call, hs']
    simp only [Notice.waitsFor, htok, hcall, hcall', kindOf, reduceCtorEq, and_self, and_false,
      decide_true, decide_false, Bool.false_eq_true, ↓reduceIte, Nat.add_zero] at w₁ w₂ w₃
    constructor <;>
      simp [lookups, announcements, missed, invalidations, dropped, sends, sent, failed, calls, log,
        hc, hl, hk, ha, hd, hcall', kindOf, ServerCall.updates] <;>
      omega
  · have hcall : notice.call = .invalidate m := by simp [Notice.call, hs]
    have hcall' : next.call = .send (.single notice.address now) := by simp [Notice.call, hs']
    have hup : (ServerCall.send (.single notice.address now)).updates
        (Address.ofToken notice.token) = true := by
      simp [ServerCall.updates, Payload.single, Notice.address]
    simp only [Notice.waitsFor, htok, hcall, hcall', kindOf, reduceCtorEq, and_self, and_false,
      decide_true, decide_false, Bool.false_eq_true, ↓reduceIte, Nat.add_zero] at w₁ w₂ w₃
    constructor <;>
      simp [lookups, announcements, missed, invalidations, dropped, sends, sent, failed, calls, log,
        hc, hl, hk, ha, hd, hcall', kindOf, hup] <;>
      omega

theorem Balanced.finish {notice : Notice S} {reply : ServerReply} {sent : Bool} {entry : LogEntry}
    (hn : notice.answer reply = some (.over sent entry)) (hc : u.calls = []) (hl : u.log = [entry])
    (ha : u.announces notice.token = false) (hd : ∀ k, u.drops notice.token k = false)
    (hw : ∀ k, s'.waiting notice.token k + (if notice.waitsFor notice.token k then 1 else 0) =
      s.waiting notice.token k) :
    Balanced notice.token s [u] s' := by
  have w₁ := hw .lookup
  have w₂ := hw .invalidate
  have w₃ := hw .send
  have hinvalidations := invalidations_eq_zero (t := notice.token) hc
  -- A notice ends at its lookup, with a miss, or at its broadcast, with the outcome of that.
  have hend : (kindOf notice.call = .lookup ∧ missed [u] (Address.ofToken notice.token) = 1 ∧
        History.sent [u] (Address.ofToken notice.token) +
          failed [u] (Address.ofToken notice.token) = 0) ∨
      (kindOf notice.call = .send ∧ missed [u] (Address.ofToken notice.token) = 0 ∧
        History.sent [u] (Address.ofToken notice.token) +
          failed [u] (Address.ofToken notice.token) = 1) := by
    rcases Notice.answer_eq_over hn with ⟨hs, -, -, he⟩ | ⟨p, hs, -, -, he⟩ |
      ⟨p, error, hs, -, -, he⟩ <;>
      simp [Notice.call, hs, kindOf, missed, History.sent, failed, log, hl, he, Notice.address,
        LogEntry.fails]
  rcases hend with ⟨hk, hm, hsf⟩ | ⟨hk, hm, hsf⟩
  all_goals
    simp only [Notice.waitsFor, hk, reduceCtorEq, and_self, and_false, decide_true, decide_false,
      Bool.false_eq_true, ↓reduceIte, Nat.add_zero] at w₁ w₂ w₃
    constructor <;>
      simp [lookups, announcements, dropped, sends, calls, hc, hinvalidations, ha, hd, hm] <;>
      omega

theorem Balanced.drop (hc : u.calls = []) (hl : u.log = []) (ha : u.announces t = false)
    (hw : ∀ k, s'.waiting t k + (if u.drops t k then 1 else 0) = s.waiting t k) :
    Balanced t s [u] s' := by
  have w₁ := hw .lookup
  have w₂ := hw .invalidate
  have w₃ := hw .send
  have hinvalidations := invalidations_eq_zero (t := t) hc
  constructor <;>
    simp [lookups, announcements, missed, dropped, sends, sent, failed, calls, log, hc, hl,
      hinvalidations, ha, List.countP_singleton] <;>
    omega

end step

namespace Session.Takes

variable {s : Session S} {e : Event S} {r : Stepped S}

theorem balanced (ht : Takes s e r) (hd : s.Distinct) (t : Token) :
    Balanced t s [⟨s, e, r⟩] r.session := by
  cases ht with
  | skip hn _ =>
      exact .silent rfl rfl (by simp [Turn.log, Effect.entry?, LogEntry.notified?]) (fun _ => rfl)
        fun _ => rfl
  | @launch n code id hn _ =>
      refine .silent rfl rfl (by simp [Turn.log, Effect.entry?]) (fun _ => rfl) fun k => ?_
      have hw := waiting_fly (t := t) (k := k) hd n (.generating code id)
      simpa [hn, Flight.waitsFor] using hw
  | @fail n code id source hn =>
      refine .silent rfl rfl (by simp [Turn.log]) (fun _ => rfl) fun k => ?_
      have hw := waiting_land (t := t) (k := k) hd n
      simpa [hn, Flight.waitsFor] using hw
  | @pass n code id artifact hn hw =>
      refine .silent rfl ?_ (by simp [Turn.log]) (fun _ => rfl) fun k => ?_
      · simp [Turn.announces, Turn.change?, Turn.log]
      · have hw := waiting_land (t := t) (k := k) hd n
        simpa [hn, Flight.waitsFor] using hw
  | @settle n code id artifact hn hw hq =>
      refine .silent rfl ?_ (by simp [Turn.log, reportOf, Effect.entry?, LogEntry.notified?])
        (fun _ => rfl) fun k => ?_
      · rw [Turn.announces_of_change? hn rfl]
        rcases hq with hq | hq <;> simp [hq, Notifier.isAttached]
      · have hw := waiting_land (s := s.stored id artifact) (t := t) (k := k) hd n
        rw [flight?_stored, hn] at hw
        exact hw
  | @notify n code id artifact server hn hw hm hv =>
      have hw (k : CallKind) := waiting_fly (s := s.stored id artifact) (t := t) (k := k) hd n
        (.notifying ⟨Token.ofIdentity id, server, .lookup⟩ (outputOf code id))
      simp only [flight?_stored, hn, Option.toList_some, List.countP_singleton, Flight.waitsFor,
        Bool.false_eq_true, ↓reduceIte, Nat.add_zero, waiting_stored] at hw
      by_cases hT : Token.ofIdentity id = t
      · subst hT
        refine .notify rfl ?_ (by simp [Turn.log, reportOf, Effect.entry?, LogEntry.notified?])
          (fun _ => rfl) hw
        rw [Turn.announces_of_change? hn rfl, hm]
        simp [hv, Notifier.isAttached]
      · refine .aside ?_ (.inr ?_) ?_ ?_ (fun _ => rfl) fun k => ?_
        · simp [Turn.calls, Effect.call?, hT, ServerCall.updates]
        · simp [Turn.token?, Event.flight?, hn, Flight.token, hT]
        · rw [Turn.announces_of_change? hn rfl]
          simp [hT]
        · simp [Turn.log, reportOf, Effect.entry?, LogEntry.notified?]
        · simpa [Notice.waitsFor, hT] using hw k
  | @advance n notice next output reply hn ha =>
      have hw (k : CallKind) := waiting_fly (t := t) (k := k) hd n (.notifying next output)
      simp only [hn, Option.toList_some, List.countP_singleton, Flight.waitsFor] at hw
      by_cases hT : notice.token = t
      · subst hT
        exact .advance ha (by simp [Turn.token?, Event.flight?, hn, Flight.token]) rfl rfl rfl
          (fun _ => rfl) hw
      · obtain ⟨htok, -, hnext⟩ := Notice.answer_eq_next ha
        refine .aside ?_ (.inr ?_) rfl (by simp [Turn.log, Effect.entry?]) (fun _ => rfl)
          fun k => ?_
        · rcases hnext with ⟨m, -, -, hs⟩ | ⟨m, now, -, -, hs⟩ <;>
            simp [Turn.calls, Effect.call?, Notice.call, hs, ServerCall.updates, Payload.single,
              Notice.address, hT]
        · simp [Turn.token?, Event.flight?, hn, Flight.token, hT]
        · simpa [Notice.waitsFor, htok, hT] using hw k
  | @finish n notice output reply sent entry hn ha =>
      have hw (k : CallKind) := waiting_land (t := t) (k := k) hd n
      simp only [hn, Option.toList_some, List.countP_singleton, Flight.waitsFor] at hw
      by_cases hT : notice.token = t
      · subst hT
        exact .finish ha rfl rfl rfl (fun _ => rfl) hw
      · refine .aside (by simp [Turn.calls, Effect.call?]) (.inl rfl) rfl ?_ (fun _ => rfl)
          fun k => ?_
        · rcases Notice.answer_eq_over ha with ⟨-, -, -, rfl⟩ | ⟨_, -, -, -, rfl⟩ |
            ⟨_, _, -, -, -, rfl⟩ <;>
            simp [Turn.log, Effect.entry?, LogEntry.notified?, Notice.address, hT]
        · simpa [Notice.waitsFor, hT] using hw k
  | poll hn => exact .silent rfl rfl (by simp [Turn.log]) (fun _ => rfl) fun _ => rfl
  | @drop n f hn =>
      refine .drop rfl rfl rfl fun k => ?_
      have hw := waiting_land (t := t) (k := k) hd n
      simpa [hn, List.countP_singleton, Turn.drops] using hw
  | load id =>
      refine .silent ?_ rfl ?_ (fun _ => rfl) fun _ => rfl
      · by_cases he : s.registry.isEarly id <;> simp [Turn.calls, he, Effect.call?]
      · by_cases he : s.registry.isEarly id <;>
          simp [Turn.log, he, Effect.entry?, LogEntry.notified?]
  | resolve id => exact .silent rfl rfl (by simp [Turn.log]) (fun _ => rfl) fun _ => rfl
  | attach server =>
      refine .silent ?_ rfl ?_ (fun _ => rfl) fun _ => rfl
      · by_cases he : s.notifier.isAttached <;>
          simp [Turn.calls, Notifier.attach, he, Effect.call?]
      · by_cases he : s.notifier.isAttached <;>
          simp [Turn.log, Notifier.attach, he, Effect.entry?, LogEntry.notified?]

end Session.Takes

/-! ### The balance of a run -/

namespace Run

variable {filter : Filter} {h : History S} {s : Session S}

theorem distinct (run : Run filter h s) : s.Distinct := by
  induction run with
  | fresh => exact .nil
  | turn _ hstep _ ih => exact ih.step (Session.takes_of_step hstep)

/-- The accounts of every token balance over every run. -/
theorem balanced (run : Run filter h s) (t : Token) : Balanced t (.fresh filter) h s := by
  induction run with
  | fresh => exact ⟨rfl, rfl, rfl, rfl⟩
  | turn run hstep _ ih =>
      exact ih.append ((Session.takes_of_step hstep).balanced run.distinct t)

/-- The calls of a transform are those of one announcing write. -/
theorem announced_of_calls (run : Run filter h s) {n : Nat} (hn : calls (turnsOf h n) ≠ []) :
    ∃ c server stage, c.flight = n ∧ commits (turnsOf h n) = [c] ∧
      (∃ v ∈ turnsOf h n, v.Announces c server) ∧
      Trail server (Address.ofToken c.token) stage (calls (turnsOf h n)) := by
  rcases (run.life n).outcome with ⟨-, hnil, -⟩ | ⟨c, -, hc, -, hnil | ⟨server, stage, hv, htr⟩⟩
  · exact absurd hnil hn
  · exact absurd hnil hn
  · have hmem : c ∈ commits (turnsOf h n) := by
      rw [hc]
      exact List.mem_singleton_self c
    exact ⟨c, server, stage, (mem_commits_turnsOf.mp hmem).2, hc, hv, htr⟩

end Run

/-! ### The main statement -/

/-- Servers are called for the writes that announce a modification, once for each. -/
structure HotUpdates (filter : Filter) (h : History S) (s : Session S) : Prop where
  /-- A call is made for the one write of its transform, which reported a modification while the
  server was attached. The calls for it are one lookup of the address of its token, one
  invalidation and one broadcast of one update of the address, or an initial part of these. -/
  once : ∀ u ∈ h, ∀ p ∈ u.calls, ∃ c server m now, u.event.flight? = some c.flight ∧
    commits (turnsOf h c.flight) = [c] ∧ (∃ v ∈ turnsOf h c.flight, v.Announces c server) ∧
    calls (turnsOf h c.flight) <+: [(server, .lookup (Address.ofToken c.token)),
      (server, .invalidate m), (server, .send (.single (Address.ofToken c.token) now))]
  /-- A transform that announces nothing calls nobody. -/
  quiet : ∀ n, (∀ v ∈ turnsOf h n, ∀ t, v.announces t = false) → calls (turnsOf h n) = []
  /-- The accounts balance, with the transforms that wait and those that were dropped. -/
  balanced : ∀ t, Balanced t (.fresh filter) h s
  /-- With no transform dropped and none in flight, every announcing write is looked up, every
  lookup ends in the log, and every invalidation is followed by a broadcast. -/
  settled : (∀ u ∈ h, ∀ n, u.event ≠ .drop n) → (∀ n, s.flight? n = none) → ∀ t,
    announcements h t = lookups h (Address.ofToken t) ∧
    lookups h (Address.ofToken t) = missed h (Address.ofToken t) + sent h (Address.ofToken t) +
      failed h (Address.ofToken t) ∧
    invalidations h t = sends h (Address.ofToken t) ∧
    sends h (Address.ofToken t) = sent h (Address.ofToken t) + failed h (Address.ofToken t)

/-- **Hot updates are sent once.** -/
theorem Run.hotUpdates {filter : Filter} {h : History S} {s : Session S} (run : Run filter h s) :
    HotUpdates filter h s where
  once u hu p hp := by
    cases hn : u.event.flight? with
    | none =>
        rw [(run.takes_of_mem hu).calls_eq_nil hn] at hp
        cases hp
    | some n =>
        have hmem : p ∈ calls (turnsOf h n) :=
          List.mem_flatMap.mpr ⟨u, mem_turnsOf.mpr ⟨hu, hn⟩, hp⟩
        obtain ⟨c, server, stage, rfl, hc, hv, htr⟩ :=
          run.announced_of_calls (List.ne_nil_of_mem hmem)
        obtain ⟨m, now, hi⟩ := htr.initial
        exact ⟨c, server, m, now, rfl, hc, hv, hi⟩
  quiet n hq := by
    by_cases hn : calls (turnsOf h n) = []
    · exact hn
    · obtain ⟨c, server, -, -, -, ⟨v, hv, ha⟩, -⟩ := run.announced_of_calls hn
      have hann := Turn.announces_iff.mpr ⟨c, server, ha, rfl⟩
      rw [hq v hv] at hann
      cases hann
  balanced := run.balanced
  settled hdrop hnone t := by
    have hd (k : CallKind) : dropped h t k = 0 := by
      refine List.countP_eq_zero.mpr fun u hu hud => ?_
      unfold Turn.drops at hud
      split at hud
      · rename_i n he
        exact hdrop u hu n he
      · cases hud
    have hw (k : CallKind) : s.waiting t k = 0 := by
      refine List.countP_eq_zero.mpr fun p hp _ => ?_
      have hlook : s.flights.lookup p.1 = none := hnone p.1
      rw [List.lookup_eq_none_iff] at hlook
      simpa using hlook p hp
    obtain ⟨h₀, h₁, h₂, h₃⟩ := run.balanced t
    have hf (k : CallKind) : (Session.fresh filter : Session S).waiting t k = 0 := rfl
    rw [hd, hw, hf] at h₁ h₂ h₃
    omega

/-- Two transforms of one file; the server is replaced between their writes, and the first server
does not know the module. -/
theorem hotUpdates_two_servers :
    ∃ (h : History String) (s : Session String), Run .all h s ∧
      announcements h (.ofIdentity "/src/a.ts") = 2 ∧
      missed h (Address.ofToken (.ofIdentity "/src/a.ts")) = 1 ∧
      sent h (Address.ofToken (.ofIdentity "/src/a.ts")) = 1 ∧ HotUpdates .all h s := by
  obtain ⟨h, s, run, hp⟩ := exists_run_of_follow? .all
    [.attach "v", .start 0 "" "/src/a.ts", .start 1 "" "/src/a.ts",
      .generated 0 (.ok (some "x")), .attach "w", .poll 0, .generated 1 (.ok (some "y")),
      .replied 1 (.found (some "m")), .replied 0 (.found none), .replied 1 (.invalidated 0),
      .replied 1 (.sent none)]
    (fun q => announcements q.1 (.ofIdentity "/src/a.ts") = 2 ∧
      missed q.1 (Address.ofToken (.ofIdentity "/src/a.ts")) = 1 ∧
      sent q.1 (Address.ofToken (.ofIdentity "/src/a.ts")) = 1)
    (by decide +kernel)
  obtain ⟨h₁, h₂, h₃⟩ := of_decide_eq_true hp
  exact ⟨h, s, run, h₁, h₂, h₃, run.hotUpdates⟩

end ScopedStyles
