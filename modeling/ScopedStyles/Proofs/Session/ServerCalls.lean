import ScopedStyles.Proofs.Invalidations
import ScopedStyles.Proofs.Session.Commits

/-! # The server calls of a session

A session calls dev servers for the stylesheets that its transforms change, and for nothing else.
Seen from its notifier (`Session.invalidations`) each step of a session is a step of one of these
invalidations, with the same calls, or none at all (`Session.Takes.mirrored`); so a run of the
session is a run of its notifier (`Run.exists_invalidations`), and the calls to servers keep to the
protocol of invalidations side by side. -/

namespace ScopedStyles

open History
open Invalidations (State Trace)

variable {S : Type}

namespace Session

/-- The notifier of a session, with the notices of the transforms that wait for a server. -/
def invalidations (s : Session S) : State S where
  notifier := s.notifier
  notices n := match s.flight? n with
    | some (.notifying notice _) => some notice
    | _ => none

variable {s : Session S} {n : Nat}

theorem invalidations_fly (notice : Notice S) (output : Output) :
    (s.fly n (.notifying notice output)).invalidations =
      s.invalidations.put n (some notice) := by
  unfold invalidations State.put
  simp only [notifier_fly, State.mk.injEq, true_and]
  funext m
  by_cases hm : m = n
  · subst hm
    simp
  · rw [Function.update_of_ne hm, flight?_fly_of_ne s _ hm]

theorem invalidations_fly_generating {code id : String} (hn : s.flight? n = none) :
    (s.fly n (.generating code id)).invalidations = s.invalidations := by
  unfold invalidations
  simp only [notifier_fly, State.mk.injEq, true_and]
  funext m
  by_cases hm : m = n
  · subst hm
    simp [hn]
  · rw [flight?_fly_of_ne s _ hm]

theorem invalidations_land : (s.land n).invalidations = s.invalidations.put n none := by
  unfold invalidations State.put
  simp only [notifier_land, State.mk.injEq, true_and]
  funext m
  by_cases hm : m = n
  · subst hm
    simp
  · rw [Function.update_of_ne hm, flight?_land_of_ne s hm]

theorem notices_of_notifying {notice : Notice S} {output : Output}
    (hn : s.flight? n = some (.notifying notice output)) :
    s.invalidations.notices n = some notice := by
  simp only [invalidations, hn]

theorem notices_of_generating {code id : String} (hn : s.flight? n = some (.generating code id)) :
    s.invalidations.notices n = none := by
  simp only [invalidations, hn]

theorem invalidations_land_of_generating {code id : String}
    (hn : s.flight? n = some (.generating code id)) :
    (s.land n).invalidations = s.invalidations :=
  invalidations_land.trans (State.put_of_eq _ _ _ (notices_of_generating hn))

/-- A step of a session as a step of its invalidations. -/
structure Mirrored (s : Session S) (e : Event S) (r : Stepped S) (e' : Invalidations.Event S)
    (r' : Invalidations.Outcome S) : Prop where
  step : Invalidations.Step s.invalidations e' r'
  state : r'.state = r.session.invalidations
  calls : r'.calls = Turn.calls ⟨s, e, r⟩
  /-- An invalidation starts when its transform writes, -/
  begins : ∀ n t, e' = .invalidate n t → ∃ c, Turn.commit? ⟨s, e, r⟩ = some c ∧ c.flight = n
  /-- and goes on while the transform waits for a server. -/
  goesOn : ∀ n, e'.number? = some n → (∃ t, e' = .invalidate n t) ∨
    ∃ notice output, s.flight? n = some (.notifying notice output)

/-- A step that calls a server mirrors a step of the invalidations; a step that mirrors none calls
no server and leaves them as they are. -/
theorem Takes.mirrored {e : Event S} {r : Stepped S} (ht : Takes s e r) :
    (∃ e' r', Mirrored s e r e' r') ∨
      r.session.invalidations = s.invalidations ∧ Turn.calls ⟨s, e, r⟩ = [] := by
  cases ht with
  | skip _ _ => exact .inr ⟨rfl, rfl⟩
  | launch hn _ => exact .inr ⟨invalidations_fly_generating hn, rfl⟩
  | fail hn => exact .inr ⟨invalidations_land_of_generating hn, rfl⟩
  | pass hn _ => exact .inr ⟨invalidations_land_of_generating hn, rfl⟩
  | @settle n code id artifact hn _ hquiet =>
      have hland := invalidations_land_of_generating (s := s.stored id artifact) hn
      by_cases hm : (s.changeBy id artifact).isModified = true
      · -- There is something to tell, but no server to tell it to.
        have hnone : s.notifier.server = none := hquiet.resolve_left (by simp [hm])
        refine .inl ⟨.invalidate n (Token.ofIdentity id), ⟨s.invalidations, [], [], some false⟩,
          .alone (notices_of_generating hn) (Option.map_eq_none_iff.mpr hnone), hland.symm, rfl,
          fun m t he => ?_, fun m he => ?_⟩
        · cases he
          exact ⟨_, Turn.commit?_of_change? hn rfl, rfl⟩
        · cases he
          exact .inl ⟨_, rfl⟩
      · exact .inr ⟨hland, rfl⟩
  | @notify n code id artifact server hn _ _ hv =>
      have hnotice : s.invalidations.notifier.notice? (Token.ofIdentity id) =
          some ⟨Token.ofIdentity id, server, .lookup⟩ :=
        Option.map_eq_some_iff.mpr ⟨server, hv, rfl⟩
      refine .inl ⟨_, _, .launch (notices_of_generating hn) hnotice, (invalidations_fly _ _).symm,
        rfl, fun m t he => ?_, fun m he => ?_⟩
      · cases he
        exact ⟨_, Turn.commit?_of_change? hn rfl, rfl⟩
      · cases he
        exact .inl ⟨_, rfl⟩
  | advance hn ha =>
      refine .inl ⟨_, _, .advance (notices_of_notifying hn) ha, (invalidations_fly _ _).symm, rfl,
        fun m t he => ?_, fun m he => ?_⟩
      · cases he
      · cases he
        exact .inr ⟨_, _, hn⟩
  | finish hn ha =>
      refine .inl ⟨_, _, .finish (notices_of_notifying hn) ha, invalidations_land.symm, rfl,
        fun m t he => ?_, fun m he => ?_⟩
      · cases he
      · cases he
        exact .inr ⟨_, _, hn⟩
  | poll _ => exact .inr ⟨rfl, rfl⟩
  | @drop n f hn =>
      cases f with
      | generating code id => exact .inr ⟨invalidations_land_of_generating hn, rfl⟩
      | notifying notice output =>
          refine .inl ⟨_, _, .drop (notices_of_notifying hn), invalidations_land.symm, rfl,
            fun m t he => ?_, fun m he => ?_⟩
          · cases he
          · cases he
            exact .inr ⟨_, _, hn⟩
  | load id => exact .inr ⟨rfl, (Takes.load id).calls_eq_nil rfl⟩
  | resolve id => exact .inr ⟨rfl, rfl⟩
  | attach server =>
      refine .inl ⟨_, _, .attach server, rfl, ((Takes.attach server).calls_eq_nil rfl).symm,
        fun m t he => ?_, fun m he => ?_⟩
      · cases he
      · cases he

end Session

namespace Run

variable {filter : Filter} {h : History S} {s : Session S}

theorem committed_of_notifying (run : Run filter h s) {n : Nat} {notice : Notice S}
    {output : Output} (hn : s.flight? n = some (.notifying notice output)) :
    ∃ c ∈ commits h, c.flight = n := by
  have hl := run.life n
  rw [hn] at hl
  cases hl with
  | @notifying c _ _ _ hc _ _ _ _ _ =>
      exact ⟨c, mem_commits_turnsOf.mp (hc ▸ List.mem_singleton_self c)⟩

theorem not_committed_of_generating (run : Run filter h s) {n : Nat} {code id : String}
    (hn : s.flight? n = some (.generating code id)) : ¬ ∃ c ∈ commits h, c.flight = n := by
  have hl := run.life n
  rw [hn] at hl
  cases hl with
  | generating _ hc _ _ =>
      rintro ⟨c, hmem⟩
      have hnil := mem_commits_turnsOf.mpr hmem
      rw [hc] at hnil
      cases hnil

/-- **The calls of a session to servers are those of invalidations.**  Its notifier has a run of its
own with the same calls in the same order, in which every invalidation is that of a transform which
wrote to the registry. -/
theorem exists_invalidations (run : Run filter h s) : ∃ h' : Trace S,
    Invalidations.Run .empty h' s.invalidations ∧ h'.calls = calls h ∧
      ∀ u ∈ h', ∀ n, u.event.number? = some n → ∃ c ∈ commits h, c.flight = n := by
  induction run with
  | fresh => exact ⟨[], .fresh, rfl, fun u hu => by cases hu⟩
  | @turn h s e r run hstep hnew ih =>
      obtain ⟨h', run', hcalls, hnumbers⟩ := ih
      have ht := Session.takes_of_step hstep
      have hkept {n : Nat} (hc : ∃ c ∈ commits h, c.flight = n) :
          ∃ c ∈ commits (h ++ [⟨s, e, r⟩]), c.flight = n := by
        obtain ⟨c, hc, hn⟩ := hc
        rw [commits_concat]
        exact ⟨c, List.mem_append_left _ hc, hn⟩
      obtain ⟨e', r', hm⟩ | ⟨hsame, hnil⟩ := ht.mirrored
      · refine ⟨h' ++ [⟨s.invalidations, e', r'⟩], ?_, ?_, fun u hu n hn => ?_⟩
        · rw [← hm.state]
          refine run'.turn hm.step fun n t he u hu hun => ?_
          -- The transform has not written yet, so that its number is a new one.
          obtain ⟨c, hc, rfl⟩ := hm.begins n t he
          exact run.not_committed_of_generating (ht.write_of_commit hc).2.1 (hnumbers u hu _ hun)
        · rw [Trace.calls_concat, calls_concat, hcalls, hm.calls]
        · rcases List.mem_append.mp hu with hu | hu
          · exact hkept (hnumbers u hu n hn)
          · obtain rfl := List.mem_singleton.mp hu
            obtain ⟨t, he⟩ | ⟨notice, output, hf⟩ := hm.goesOn n hn
            · obtain ⟨c, hc, hcn⟩ := hm.begins n t he
              rw [commits_concat, hc]
              exact ⟨c, List.mem_append_right _ List.mem_cons_self, hcn⟩
            · exact hkept (run.committed_of_notifying hf)
      · refine ⟨h', hsame ▸ run', ?_, fun u hu n hn => hkept (hnumbers u hu n hn)⟩
        rw [calls_concat, hnil, List.append_nil, hcalls]

end Run
end ScopedStyles
