import ScopedStyles.Proofs.Session.Commits

/-! # Overlapping transforms are serialisable

A transform runs `Straight` through if its turns follow one another, from its start to its return,
with no turn of any other transform and no early poll between them.  A run is `Serial` if all its
transforms run straight through, one after another, whatever the host does between them.

However the transforms of a run overlap, are dropped, fail or are never answered, the transforms
that commit can be run serially in the order of their commits, and every such serial run, with any
servers and any replies, ends with the same registry, has the same reports and returns the same
results (`Serialisable`). -/

namespace ScopedStyles

open History

variable {S : Type}

/-- `Straight n s us s'`: from `s`, transform `n` runs through the turns `us` until it returns. -/
inductive Straight (n : Nat) : Session S → History S → Session S → Prop
  | last {s : Session S} {e : Event S} {r : Stepped S} {result : Returned} :
      s.step e = some r → e.flight? = some n → r.answer = .returned result →
      Straight n s [⟨s, e, r⟩] r.session
  | next {s s' : Session S} {e : Event S} {r : Stepped S} {us : History S} :
      s.step e = some r → e.flight? = some n → e ≠ .poll n → r.answer = .pending →
      Straight n r.session us s' → Straight n s (⟨s, e, r⟩ :: us) s'

/-- `Serial filter h s`: the turns `h` lead from a fresh session to `s`, and each transform runs
straight through. -/
inductive Serial (filter : Filter) : History S → Session S → Prop
  | fresh : Serial filter [] (.fresh filter)
  | aside {h : History S} {s : Session S} {e : Event S} {r : Stepped S} :
      Serial filter h s → s.step e = some r → e.flight? = none →
      Serial filter (h ++ [⟨s, e, r⟩]) r.session
  | transform {h us : History S} {s s' : Session S} {n : Nat} :
      Serial filter h s → (∀ u ∈ h, u.event.flight? ≠ some n) → Straight n s us s' →
      Serial filter (h ++ us) s'

namespace Session.Takes

variable {s : Session S} {e : Event S} {r : Stepped S} {n : Nat}

theorem flight?_of_pending (ht : Takes s e r) (he : e.flight? = some n)
    (hr : r.answer = .pending) : r.session.flight? n ≠ none := by
  cases ht with
  | launch _ _ => cases he; simp
  | notify _ _ _ _ => cases he; simp
  | advance _ _ => cases he; simp
  | poll hn => cases he; simp [hn]
  | _ => cases hr

end Session.Takes

/-! ### Serial runs are runs -/

namespace Straight

variable {n : Nat} {s s' : Session S} {us : History S}

theorem flight? (st : Straight n s us s') : ∀ u ∈ us, u.event.flight? = some n := by
  induction st with
  | last _ he _ => exact List.forall_mem_singleton.mpr he
  | next _ he _ _ _ ih => exact List.forall_mem_cons.mpr ⟨he, ih⟩

theorem returned (st : Straight n s us s') : ∃ result, (n, result) ∈ returns us := by
  induction st with
  | @last s e r result _ he hr =>
      refine ⟨result, mem_returns.mpr ⟨_, List.mem_cons_self, ?_⟩⟩
      simp only [Turn.returned?, he, hr]
  | next _ _ _ _ _ ih =>
      obtain ⟨result, hm⟩ := ih
      obtain ⟨u, hu, hp⟩ := mem_returns.mp hm
      exact ⟨result, mem_returns.mpr ⟨u, List.mem_cons_of_mem _ hu, hp⟩⟩

theorem run {filter : Filter} {h : History S} (st : Straight n s us s') (run : Run filter h s)
    (hn : s.flight? n = none → ∀ u ∈ h, u.event.flight? ≠ some n) : Run filter (h ++ us) s' := by
  -- Only its first turn can start the transform: after a turn that waits it is in flight.
  have unused {s : Session S} {e : Event S} {r : Stepped S} {h : History S}
      (hstep : s.step e = some r) (he : e.flight? = some n)
      (hn : s.flight? n = none → ∀ u ∈ h, u.event.flight? ≠ some n) :
      ∀ m, e.starts? = some m → ∀ u ∈ h, u.event.flight? ≠ some m := by
    intro m hm
    obtain ⟨hnone, hem⟩ := (Session.takes_of_step hstep).flight?_of_starts? hm
    obtain rfl : n = m := Option.some.inj (he.symm.trans hem)
    exact hn hnone
  induction st generalizing h with
  | last hstep he _ => exact run.turn hstep (unused hstep he hn)
  | @next s s' e r us hstep he _ hr _ ih =>
      rw [List.append_cons]
      refine ih (run.turn hstep (unused hstep he hn)) fun hnone => ?_
      exact absurd hnone ((Session.takes_of_step hstep).flight?_of_pending he hr)

end Straight

theorem Event.starts?_eq_none {e : Event S} (h : e.flight? = none) : e.starts? = none := by
  cases e <;> first | rfl | cases h

namespace Serial

variable {filter : Filter} {h : History S} {s : Session S}

theorem run (hs : Serial filter h s) : Run filter h s := by
  induction hs with
  | fresh => exact .fresh
  | aside _ hstep he ih =>
      refine ih.turn hstep fun n hn => ?_
      rw [Event.starts?_eq_none he] at hn
      cases hn
  | transform _ hnew st ih => exact st.run ih fun _ => hnew

theorem returned (hs : Serial filter h s) {u : Turn S} (hu : u ∈ h) {n : Nat}
    (hn : u.event.flight? = some n) : ∃ result, (n, result) ∈ returns h := by
  induction hs with
  | fresh => cases hu
  | @aside h s e r _ _ he ih =>
      rcases List.mem_append.mp hu with hu | hu
      · obtain ⟨result, hm⟩ := ih hu
        exact ⟨result, by rw [returns_concat]; exact List.mem_append_left _ hm⟩
      · obtain rfl := List.mem_singleton.mp hu
        rw [he] at hn
        cases hn
  | @transform h us s s' m _ _ st ih =>
      unfold returns at ih ⊢
      rw [List.filterMap_append]
      rcases List.mem_append.mp hu with hu | hu
      · obtain ⟨result, hm⟩ := ih hu
        exact ⟨result, List.mem_append_left _ hm⟩
      · obtain rfl : m = n := Option.some.inj ((st.flight? u hu).symm.trans hn)
        obtain ⟨result, hm⟩ := st.returned
        exact ⟨result, List.mem_append_right _ hm⟩

theorem output_mem_returns (hs : Serial filter h s) {c : Commit} (hc : c ∈ commits h) :
    (c.flight, .ok (some (outputOf c.code c.id))) ∈ returns h := by
  obtain ⟨u, hu, huc⟩ := mem_commits.mp hc
  obtain ⟨result, hm⟩ := hs.returned hu (Turn.flight?_of_commit? huc)
  have e : result = .ok (some (outputOf c.code c.id)) := hs.run.output_of_returned hm hc rfl
  rwa [e] at hm

end Serial

/-! ### A serial run of the commits -/

namespace Session

variable {s s' : Session S} {n : Nat}

/-- With no server attached, a transform that is answered at once runs straight through. -/
theorem exists_straight (c : Commit) (hn : s.flight? c.flight = none)
    (hc : s.isCandidate c.id = true) (hw : Writes c.code c.artifact)
    (hv : s.notifier.server = none) :
    ∃ us s', Straight c.flight s us s' ∧ commits us = [c] ∧ s'.notifier.server = none := by
  have h₁ : s.step (.start c.flight c.code c.id) = some
      ⟨s.fly c.flight (.generating c.code c.id),
        [.generate c.code c.id (explicitScope c.code c.id)], .pending⟩ :=
    step_of_takes (.launch hn hc)
  have hf : (s.fly c.flight (.generating c.code c.id)).flight? c.flight =
      some (.generating c.code c.id) := by
    exact flight?_fly_self _ _ _
  have h₂ := step_of_takes (.settle hf hw (.inr hv))
  refine ⟨_, _, .next h₁ rfl (fun h => by cases h) rfl (.last h₂ rfl rfl), ?_, hv⟩
  rw [commits, List.filterMap_cons_none rfl,
    List.filterMap_cons_some (Turn.commit?_of_change? hf rfl)]
  rfl

end Session

namespace Run

variable {filter : Filter} {h : History S} {s : Session S}

/-- The commits of a run can be made serially, with no server attached. -/
theorem exists_serial (run : Run filter h s) :
    ∃ (h' : History S) (s' : Session S), Serial filter h' s' ∧ commits h' = commits h ∧
      s'.notifier.server = none ∧
      ∀ u ∈ h', ∀ n, u.event.flight? = some n → ∃ c ∈ commits h, c.flight = n := by
  induction run with
  | fresh => exact ⟨[], _, .fresh, rfl, rfl, fun u hu => by cases hu⟩
  | @turn h s e r run hstep _ ih =>
      obtain ⟨h', s', hs, hcs, hv, hof⟩ := ih
      rw [commits_concat]
      rcases (Session.takes_of_step hstep).write_or_keep with ⟨c, hc, -, hg, hw, -, -⟩ | ⟨hc, -, -⟩
      · -- The transform that commits now has not been run serially before.
        have hnew : ∀ u ∈ h', u.event.flight? ≠ some c.flight := by
          intro u hu hn
          obtain ⟨d, hd, hdc⟩ := hof u hu _ hn
          have hd' : d ∈ commits (turnsOf h c.flight) := mem_commits_turnsOf.mpr ⟨hd, hdc⟩
          have hl := run.life c.flight
          rw [hg] at hl
          cases hl with
          | generating _ h₁ => rw [h₁] at hd'; cases hd'
        have hcand : s'.isCandidate c.id = true := by
          have hsame : s'.filter = (Session.fresh filter : Session S).filter := hs.run.filter_eq
          rw [Session.isCandidate_congr hsame]
          exact run.isCandidate_of_generating hg
        obtain ⟨us, s'', st, hus, hv'⟩ :=
          Session.exists_straight c (hs.run.flight?_of_unused hnew) hcand hw hv
        refine ⟨h' ++ us, s'', .transform hs hnew st, ?_, hv', ?_⟩
        · rw [commits, List.filterMap_append]
          show commits h' ++ commits us = _
          rw [hus, hcs, hc]
          rfl
        · intro u hu n hn
          rcases List.mem_append.mp hu with hu | hu
          · obtain ⟨d, hd, hdn⟩ := hof u hu n hn
            exact ⟨d, List.mem_append_left _ hd, hdn⟩
          · refine ⟨c, List.mem_append_right _ (by rw [hc]; exact List.mem_singleton_self c), ?_⟩
            exact Option.some.inj ((st.flight? u hu).symm.trans hn)
      · refine ⟨h', s', hs, by rw [hcs, hc]; exact (List.append_nil _).symm, hv, ?_⟩
        intro u hu n hn
        obtain ⟨d, hd, hdn⟩ := hof u hu n hn
        exact ⟨d, List.mem_append_left _ hd, hdn⟩

theorem registry_of_not_commit (run : Run filter h s) {u : Turn S} (hu : u ∈ h)
    (hc : u.commit? = none) : u.after.session.registry = u.before.registry := by
  rcases (run.takes_of_mem hu).write_or_keep with ⟨c, hk, -⟩ | ⟨-, -, hr⟩
  · rw [hc] at hk
    cases hk
  · exact hr

end Run

/-! ### The main statement -/

/-- The transforms of a run are serialisable in the order of their commits. -/
structure Serialisable (filter : Filter) (h : History S) (s : Session S) : Prop where
  /-- The transforms that commit, and no others, make the same commits serially. -/
  exists_serial : ∃ (h' : History S) (s' : Session S), Serial filter h' s' ∧
    commits h' = commits h ∧
    ∀ u ∈ h', ∀ n, u.event.flight? = some n → ∃ c ∈ commits h, c.flight = n
  /-- Whatever servers a serial run has and whatever they reply, it ends with the same registry. -/
  registry_eq : ∀ (h' : History S) (s' : Session S), Serial filter h' s' →
    commits h' = commits h → s'.registry = s.registry
  /-- Its writes report the same. -/
  changes_eq : ∀ (h' : History S) (s' : Session S), Serial filter h' s' →
    commits h' = commits h → changes h' = changes h
  /-- Its transforms return the same, as far as they return in the run. -/
  returns_eq : ∀ (h' : History S) (s' : Session S), Serial filter h' s' →
    commits h' = commits h →
    ∀ p ∈ returns h, (∃ c ∈ commits h, c.flight = p.1) → p ∈ returns h'
  /-- The entry of a token is that of the last commit under it. -/
  last_commit : ∀ t, s.registry.get? t =
    ((commits h).filter fun c => c.token = t).getLast?.map Commit.entry
  /-- A transform that returns without a commit returns no output and leaves every entry alone. -/
  no_commit : ∀ p ∈ returns h, (∃ c ∈ commits h, c.flight = p.1) ∨
    (¬ ∃ output, p.2 = .ok (some output)) ∧
      ∀ u ∈ turnsOf h p.1, u.after.session.registry = u.before.registry

/-- **Overlapping transforms are serialisable.** -/
theorem Run.serialisable {filter : Filter} {h : History S} {s : Session S}
    (run : Run filter h s) : Serialisable filter h s where
  exists_serial := by
    obtain ⟨h', s', hs, hcs, -, hof⟩ := run.exists_serial
    exact ⟨h', s', hs, hcs, hof⟩
  registry_eq h' s' hs hcs := by
    rw [hs.run.registry_eq, run.registry_eq, hcs]
  changes_eq h' s' hs hcs := by
    rw [hs.run.changes_eq, run.changes_eq, hcs]
  returns_eq h' s' hs hcs p hp := by
    rintro ⟨c, hc, hcp⟩
    have e : p = (c.flight, .ok (some (outputOf c.code c.id))) :=
      Prod.ext hcp.symm (run.output_of_returned hp hc hcp)
    rw [e]
    exact hs.output_mem_returns (hcs ▸ hc)
  last_commit t := by
    rw [run.registry_eq, Registry.get?_replay]
    exact Option.or_none
  no_commit p hp := by
    by_cases hc : ∃ c ∈ commits h, c.flight = p.1
    · exact .inl hc
    · refine .inr ⟨?_, fun u hu => ?_⟩
      · rintro ⟨output, ho⟩
        exact hc (run.committed_of_output hp ho)
      · obtain ⟨hu, hn⟩ := mem_turnsOf.mp hu
        refine run.registry_of_not_commit hu ?_
        cases huc : u.commit? with
        | none => rfl
        | some c =>
            have hcn : c.flight = p.1 :=
              Option.some.inj ((Turn.flight?_of_commit? huc).symm.trans hn)
            exact absurd ⟨c, mem_commits.mpr ⟨u, hu, huc⟩, hcn⟩ hc

/-- A slow and a fast transform of one file: the slow one starts first and commits last. -/
theorem serialisable_slow_fast :
    ∃ (h : History String) (s : Session String), Run .all h s ∧
      commits h = [⟨1, "fast", "/src/a.ts", some "fast"⟩, ⟨0, "slow", "/src/a.ts", some "slow"⟩] ∧
      changes h = [.inserted, .changed] ∧ Serialisable .all h s := by
  obtain ⟨h, s, run, hp⟩ := exists_run_of_follow? .all
    [.start 0 "slow" "/src/a.ts", .start 1 "fast" "/src/a.ts", .poll 0,
      .generated 1 (.ok (some "fast")), .attach "v", .generated 0 (.ok (some "slow"))]
    (fun q => commits q.1 =
        [⟨1, "fast", "/src/a.ts", some "fast"⟩, ⟨0, "slow", "/src/a.ts", some "slow"⟩] ∧
      changes q.1 = [.inserted, .changed])
    (by decide +kernel)
  obtain ⟨hc, hk⟩ := of_decide_eq_true hp
  exact ⟨h, s, run, hc, hk, run.serialisable⟩

end ScopedStyles
