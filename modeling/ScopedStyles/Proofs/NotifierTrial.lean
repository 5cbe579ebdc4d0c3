import Mathlib.Data.Fintype.EquivFin
import ScopedStyles.Host.NotifierTrial
import ScopedStyles.Proofs.Invalidations

/-! # Trials of a notifier are runs

A trial carries every invalidation to its end before the next command, and gives it up where a
server lets it wait.  Its commands are steps of a notifier with its invalidations all the same: a
notice that is carried on takes the replies that the scripted servers give
(`NotifierTrial.exists_carried`), a command makes a few turns (`NotifierTrial.exists_turns`), and
the commands of a trial make a run (`NotifierTrial.exists_run`).  The turns of a command make the
calls, the reports and the answer that the trial shows of it (`Shows`). -/

namespace ScopedStyles

open Invalidations (State Trace Run Step)
open Invalidations.Trace (calls results)

variable {S : Type}

/-- The calls that a notice can still wait for. -/
def NoticeStage.left : NoticeStage → Nat
  | lookup => 3
  | invalidate _ => 2
  | send _ => 1

theorem Notice.left_of_answer {notice next : Notice S} {reply : ServerReply}
    (h : notice.answer reply = some (.next next)) : notice.stage.left = next.stage.left + 1 := by
  obtain ⟨-, -, ⟨m, hs, -, hn⟩ | ⟨m, now, hs, -, hn⟩⟩ := Notice.answer_eq_next h <;>
    rw [hs, hn] <;> rfl

namespace Invalidations

theorem State.put_put (s : State S) (n : Nat) (notice notice' : Option (Notice S)) :
    (s.put n notice).put n notice' = s.put n notice' := by
  simp [put]

/-- What is reported to the log. -/
def Trace.log (h : Trace S) : List LogEntry := h.flatMap fun u => u.after.log

theorem Trace.exists_unused (h : Trace S) : ∃ n, ∀ u ∈ h, u.event.number? ≠ some n := by
  obtain ⟨n, hn⟩ :=
    Infinite.exists_notMem_finset (h.filterMap fun u => u.event.number?).toFinset
  refine ⟨n, fun u hu he => hn ?_⟩
  rw [List.mem_toFinset, List.mem_filterMap]
  exact ⟨u, hu, he⟩

theorem Run.turn_of_started {n₀ : Notifier S} {h : Trace S} {s : State S} {e : Event S}
    {r : Outcome S} (run : Run n₀ h s) (hstep : Step s e r) (he : ∀ n t, e ≠ .invalidate n t) :
    Run n₀ (h ++ [⟨s, e, r⟩]) r.state :=
  run.turn hstep fun n t hn => absurd hn (he n t)

end Invalidations

namespace Host

open Invalidations (Trace.log)

/-- The calls that events tell of. -/
def callsOf (events : List ServerEvent) : List (String × ServerCall) :=
  events.map fun event => (event.server, event.call)

/-- What an invalidation returns by a result. -/
def NotifierCommand.returned (r : NotifierResult) : NotifierCommand → List Bool
  | invalidate _ => r.flag.toList
  | _ => []

/-- The turns `h` show what the result of a command does. -/
structure Shows (c : NotifierCommand) (r : NotifierResult) (h : Trace String) : Prop where
  calls : calls h = callsOf r.events
  log : Trace.log h = r.log
  results : results h = c.returned r

namespace NotifierTrial

/-- A notice that waits for a server is carried to its end, or dropped. -/
theorem exists_carried (servers : Servers) (n₀ : Notifier String) {n : Nat} :
    ∀ {fuel : Nat} {s : State String} {notice : Notice String}, s.notices n = some notice →
      notice.stage.left ≤ fuel → ∃ h' : Trace String,
        (∀ {h}, Run n₀ h s → Run n₀ (h ++ h') (s.put n none)) ∧
        callsOf (carry servers fuel notice).events = (notice.server, notice.call) :: calls h' ∧
        (carry servers fuel notice).log = Trace.log h' ∧
        (carry servers fuel notice).flag.toList = results h'
  | 0, s, notice, _, hfuel => by
      cases hs : notice.stage <;> simp [hs, NoticeStage.left] at hfuel
  | fuel + 1, s, notice, hn, hfuel => by
      unfold carry
      cases ha : ((servers.named notice.server).reply? notice.call).bind notice.answer with
      | none =>
          exact ⟨[⟨s, .drop n, ⟨s.put n none, [], [], none⟩⟩],
            fun run => run.turn_of_started (.drop hn) nofun, rfl, rfl, rfl⟩
      | some step =>
          obtain ⟨reply, -, ha⟩ := Option.bind_eq_some_iff.mp ha
          rcases step with next | ⟨sent, entry⟩
          · have hleft : next.stage.left ≤ fuel := by
              have := Notice.left_of_answer ha
              omega
            obtain ⟨h', hrun, hcalls, hlog, hresults⟩ :=
              exists_carried servers n₀ (s.notices_put_self n (some next)) hleft
            refine ⟨⟨s, .replied n reply,
              ⟨s.put n (some next), [(next.server, next.call)], [], none⟩⟩ :: h',
              fun {h} run => ?_, ?_, hlog, hresults⟩
            · have hnext := hrun (run.turn_of_started (.advance hn ha) nofun)
              rwa [List.append_assoc, State.put_put] at hnext
            · exact congrArg ((notice.server, notice.call) :: ·) hcalls
          · exact ⟨[⟨s, .replied n reply, ⟨s.put n none, [], [entry], some sent⟩⟩],
              fun run => run.turn_of_started (.finish hn ha) nofun, rfl, rfl, rfl⟩

/-- A command makes a few turns, after which no notice waits. -/
theorem exists_turns {n₀ : Notifier String} {h : Trace String} {s : State String}
    (run : Run n₀ h s) (hidle : ∀ n, s.notices n = none) {t : NotifierTrial}
    (ht : t.notifier = s.notifier) (c : NotifierCommand) :
    ∃ h' s', Run n₀ (h ++ h') s' ∧ (∀ n, s'.notices n = none) ∧
      (t.run c).1.notifier = s'.notifier ∧ Shows c (t.run c).2 h' := by
  have idle (c : NotifierCommand) (hc : (t.run c).1.notifier = t.notifier)
      (hshows : Shows c (t.run c).2 []) : ∃ h' s', Run n₀ (h ++ h') s' ∧
        (∀ n, s'.notices n = none) ∧ (t.run c).1.notifier = s'.notifier ∧
        Shows c (t.run c).2 h' :=
    ⟨[], s, by rwa [List.append_nil], hidle, hc.trans ht, hshows⟩
  cases c with
  | server name change => exact idle _ rfl ⟨rfl, rfl, rfl⟩
  | attached => exact idle _ rfl ⟨rfl, rfl, rfl⟩
  | attach server =>
      refine ⟨_, _, run.turn_of_started (.attach server) nofun, hidle, ?_, rfl, ?_, rfl⟩
      · exact congrArg (fun notifier => (Notifier.attach notifier server).1) ht
      · simp [Trace.log, NotifierTrial.run, ht]
  | invalidate token =>
      obtain ⟨n, hn⟩ := h.exists_unused
      have hnew (m : Nat) (u : Token) (he : Invalidations.Event.invalidate n token =
          (.invalidate m u : Invalidations.Event String)) : ∀ v ∈ h, v.event.number? ≠ some m := by
        cases he
        exact hn
      cases hnotice : s.notifier.notice? token with
      | none =>
          have hrun : t.run (.invalidate token) = (t, ⟨some false, [], []⟩) := by
            simp only [NotifierTrial.run, ht, hnotice]
          rw [hrun]
          exact ⟨_, _, run.turn (.alone (hidle n) hnotice) hnew, hidle, ht, rfl, rfl, rfl⟩
      | some notice =>
          have hrun : t.run (.invalidate token) = (t, carry t.servers 3 notice) := by
            simp only [NotifierTrial.run, ht, hnotice]
          obtain ⟨server, -, rfl⟩ := Option.map_eq_some_iff.mp hnotice
          have hleft : (⟨token, server, .lookup⟩ : Notice String).stage.left ≤ 3 := Nat.le_refl 3
          obtain ⟨h', hcarried, hcalls, hlog, hresults⟩ :=
            exists_carried t.servers n₀ (s.notices_put_self n _) hleft
          have run' := hcarried (run.turn (.launch (hidle n) hnotice) hnew)
          rw [List.append_assoc, State.put_put, State.put_of_eq _ _ _ (hidle n)] at run'
          rw [hrun]
          exact ⟨_, s, run', hidle, ht, hcalls.symm, hlog.symm, hresults.symm⟩

/-- Runs commands one after another. -/
def runAll (t : NotifierTrial) : List NotifierCommand → NotifierTrial × List NotifierResult
  | [] => (t, [])
  | c :: cs =>
      let (t, r) := t.run c
      let (t, rs) := t.runAll cs
      (t, r :: rs)

theorem exists_turns_runAll {n₀ : Notifier String} : ∀ {cs : List NotifierCommand}
    {t : NotifierTrial} {h : Trace String} {s : State String}, Run n₀ h s →
    (∀ n, s.notices n = none) → t.notifier = s.notifier →
    ∃ (hs : List (Trace String)) (s' : State String), Run n₀ (h ++ hs.flatten) s' ∧
      (∀ n, s'.notices n = none) ∧ (t.runAll cs).1.notifier = s'.notifier ∧
      List.Forall₂ (fun p h => Shows p.1 p.2 h) (cs.zip (t.runAll cs).2) hs
  | [], _, _, s, run, hidle, ht => ⟨[], s, by simpa using run, hidle, ht, .nil⟩
  | c :: _, _, _, _, run, hidle, ht => by
      obtain ⟨h', s', run', hidle', ht', hshows⟩ := exists_turns run hidle ht c
      obtain ⟨hs, s'', run'', hidle'', ht'', hall⟩ := exists_turns_runAll run' hidle' ht'
      refine ⟨h' :: hs, s'', ?_, hidle'', ht'', .cons hshows hall⟩
      rwa [List.append_assoc] at run''

/-- **Trials are runs.**  The commands of a trial make a run of a notifier, each of them the turns
that show what its result does. -/
theorem exists_run (cs : List NotifierCommand) : ∃ (hs : List (Trace String)) (s : State String),
    Run .empty hs.flatten s ∧ (∀ n, s.notices n = none) ∧
      (fresh.runAll cs).1.notifier = s.notifier ∧
      List.Forall₂ (fun p h => Shows p.1 p.2 h) (cs.zip (fresh.runAll cs).2) hs :=
  exists_turns_runAll .fresh (fun _ => rfl) rfl

end NotifierTrial
end Host
end ScopedStyles
