import ScopedStyles.Proofs.Session.Inputs

/-! # What a dropped transform leaves behind

A transform that is dropped while it waits for the generator has written nothing, and nothing shows
that it was ever started.  A transform that is dropped while it waits for a server has written its
entry, which stays: the registry is that of a run without the transform only if another transform
has written under the same token since (`DropEffect`).  If none has, the next transform of the file
with the same styles finds its entry there already and calls no server, even if the server was not
told. -/

namespace ScopedStyles

open History

variable {S : Type}

/-! ### Leaving out one commit -/

/-- A commit that modified its entry matters until the next commit under its token. -/
theorem Registry.replay_erase_iff {xs ys : List Commit} {c : Commit}
    (hc : (empty.replay xs).get? c.token ≠ some c.entry) :
    empty.replay (xs ++ c :: ys) = empty.replay (xs ++ ys) ↔ ∃ d ∈ ys, d.token = c.token := by
  have hget (t : Token) : (empty.replay (xs ++ c :: ys)).get? t =
      ((ys.filter fun d => d.token = t).getLast?.map Commit.entry).or
        (if t = c.token then some c.entry else (empty.replay xs).get? t) := by
    rw [replay_append, replay_cons, get?_replay, get?_put]
  have hget' (t : Token) : (empty.replay (xs ++ ys)).get? t =
      ((ys.filter fun d => d.token = t).getLast?.map Commit.entry).or
        ((empty.replay xs).get? t) := by
    rw [replay_append, get?_replay]
  constructor
  · intro h
    refine Decidable.of_not_not fun hno => hc ?_
    have hnil : ys.filter (fun d => d.token = c.token) = [] := by
      refine List.filter_eq_nil_iff.mpr fun d hd hdc => hno ⟨d, hd, ?_⟩
      simpa using hdc
    have heq := hget' c.token
    rw [← h, hget c.token, hnil, if_pos rfl] at heq
    exact heq.symm
  · rintro ⟨d, hd, hdc⟩
    refine (sorted_empty.replay _).ext (sorted_empty.replay _) fun t => ?_
    rw [hget, hget']
    by_cases ht : t = c.token
    · subst ht
      have hmem : d ∈ ys.filter fun d => d.token = c.token :=
        List.mem_filter.mpr ⟨hd, by simpa using hdc⟩
      rw [List.getLast?_eq_some_getLast (List.ne_nil_of_mem hmem)]
      rfl
    · rw [if_neg ht]

theorem History.commits_turnsOf_eq (h : History S) (n : Nat) :
    commits (turnsOf h n) = (commits h).filter fun c => c.flight = n := by
  induction h with
  | nil => rfl
  | cons u h ih =>
      unfold commits turnsOf at ih ⊢
      cases hc : u.commit? with
      | none =>
          rw [List.filterMap_cons_none hc, ← ih]
          by_cases hu : u.event.flight? = some n
          · rw [List.filter_cons_of_pos (by simpa using hu), List.filterMap_cons_none hc]
          · rw [List.filter_cons_of_neg (by simpa using hu)]
      | some c =>
          have hcu := Turn.flight?_of_commit? hc
          rw [List.filterMap_cons_some hc]
          by_cases hn : c.flight = n
          · rw [List.filter_cons_of_pos (by simp [hcu, hn]), List.filterMap_cons_some hc, ih,
              List.filter_cons_of_pos (by simpa using hn)]
          · rw [List.filter_cons_of_neg (by simp [hcu, hn]), ih,
              List.filter_cons_of_neg (by simpa using hn)]

/-! ### Drops -/

def Event.dropped? : Event S → Option Nat
  | .drop n => some n
  | _ => none

theorem Event.eq_drop {e : Event S} {n : Nat} (h : e.dropped? = some n) : e = .drop n := by
  cases e with
  | drop m =>
      obtain rfl : m = n := Option.some.inj h
      rfl
  | _ => cases h

namespace Run

variable {filter : Filter} {h : History S} {s : Session S} {u : Turn S} {n : Nat}

/-- What announced a modification found another entry, or none. -/
theorem split_commits (run : Run filter h s) (hu : u ∈ h) {c : Commit} {server : S}
    (ha : u.Announces c server) : ∃ xs ys, commits h = xs ++ c :: ys ∧
      (Registry.empty.replay xs).get? c.token ≠ some c.entry := by
  obtain ⟨hc, ⟨change, hk, hm⟩, -⟩ := ha
  obtain ⟨h₁, h₂, rfl, run₁, ht⟩ := run.split hu
  refine ⟨commits h₁, commits h₂, ?_, ?_⟩
  · unfold commits
    rw [List.filterMap_append, List.filterMap_cons_some hc]
  · rw [← run₁.registry_eq]
    rcases ht.write_or_keep with ⟨d, hd, -, -, -, hdk, -⟩ | ⟨hnone, -⟩
    · obtain rfl : c = d := Option.some.inj (hc.symm.trans hd)
      obtain rfl := Option.some.inj (hk.symm.trans hdk)
      exact Registry.isModified_change.mp hm
    · rw [hc] at hnone
      cases hnone

/-- A transform that is dropped waited for the generator and has not committed, or it waited for a
server and has announced its one commit. -/
theorem drop_cases (run : Run filter h s) (hu : u ∈ h) (he : u.event = .drop n) :
    s.flight? n = none ∧
      ((∃ code id, u.before.flight? n = some (.generating code id)) ∧
          commits (turnsOf h n) = [] ∨
        (∃ notice output, u.before.flight? n = some (.notifying notice output)) ∧
          ∃ c server, commits (turnsOf h n) = [c] ∧
            ∃ v ∈ turnsOf h n, v.Announces c server) := by
  induction run with
  | fresh => cases hu
  | @turn h s e r run hstep hnew ih =>
      have ht := Session.takes_of_step hstep
      rcases List.mem_append.mp hu with hu | hu
      · obtain ⟨hnone, hcases⟩ := ih hu
        have hne : e.flight? ≠ some n := fun hn =>
          hnew n (ht.starts?_of_flight? hnone hn) u hu (by rw [he]; rfl)
        rw [turnsOf_concat_of_ne h ⟨s, e, r⟩ hne, ht.flight?_of_ne hne]
        exact ⟨hnone, hcases⟩
      · obtain rfl := List.mem_singleton.mp hu
        simp only at he
        subst he
        rw [turnsOf_concat_self h _ rfl, commits_concat]
        have hl := run.life n
        cases ht with
        | @drop _ f hn =>
            refine ⟨Session.flight?_land_self s n, ?_⟩
            rw [hn] at hl
            cases hl with
            | generating _ hc _ _ =>
                refine .inl ⟨⟨_, _, hn⟩, ?_⟩
                rw [hc]
                rfl
            | notifying _ hc hv _ _ _ _ =>
                obtain ⟨v, hv, ha⟩ := hv
                refine .inr ⟨⟨_, _, hn⟩, _, _, ?_, v, List.mem_append_left _ hv, ha⟩
                rw [hc]
                rfl

end Run

/-! ### The only commit of a transform -/

section alone
variable {xs ys : List Commit} {c d : Commit} {n : Nat}

theorem ne_of_filter_eq (h : (xs ++ c :: ys).filter (fun c => c.flight = n) = [d])
    (hn : c.flight = n) : (∀ x ∈ xs, x.flight ≠ n) ∧ ∀ y ∈ ys, y.flight ≠ n := by
  rw [List.filter_append, List.filter_cons_of_pos (by simpa using hn)] at h
  have hlen := congrArg List.length h
  simp only [List.length_append, List.length_cons, List.length_nil] at hlen
  have hx : xs.filter (fun c => c.flight = n) = [] := List.length_eq_zero_iff.mp (by omega)
  have hy : ys.filter (fun c => c.flight = n) = [] := List.length_eq_zero_iff.mp (by omega)
  constructor
  · intro x hxs
    simpa using List.filter_eq_nil_iff.mp hx x hxs
  · intro y hys
    simpa using List.filter_eq_nil_iff.mp hy y hys

theorem filter_ne_eq (hx : ∀ x ∈ xs, x.flight ≠ n) (hn : c.flight = n)
    (hy : ∀ y ∈ ys, y.flight ≠ n) :
    (xs ++ c :: ys).filter (fun c => c.flight ≠ n) = xs ++ ys := by
  rw [List.filter_append, List.filter_cons_of_neg (by simpa using hn),
    List.filter_eq_self.mpr fun x hxs => by simpa using hx x hxs,
    List.filter_eq_self.mpr fun y hys => by simpa using hy y hys]

theorem after_eq {xs' ys' : List Commit} {c' : Commit} (h : xs ++ c :: ys = xs' ++ c' :: ys')
    (hx : ∀ x ∈ xs, x.flight ≠ n) (hn : c.flight = n) (hx' : ∀ x ∈ xs', x.flight ≠ n)
    (hn' : c'.flight = n) : c = c' ∧ ys = ys' := by
  have hd := congrArg (List.dropWhile fun c : Commit => c.flight ≠ n) h
  rw [List.dropWhile_append_of_pos fun x hxs => by simpa using hx x hxs,
    List.dropWhile_append_of_pos fun x hxs => by simpa using hx' x hxs,
    List.dropWhile_cons_of_neg (by simpa using hn),
    List.dropWhile_cons_of_neg (by simpa using hn')] at hd
  exact List.cons.inj hd

end alone

/-! ### The main statement -/

/-- A transform has committed, and another commit under the same token came later. -/
def Overwritten (n : Nat) (h : History S) : Prop :=
  ∃ xs c ys, commits h = xs ++ c :: ys ∧ c.flight = n ∧ ∃ d ∈ ys, d.token = c.token

/-- What is left at the end of a run of transform `n`, which was dropped in the turn `u`. -/
structure DropEffect (filter : Filter) (n : Nat) (h : History S) (s : Session S) (u : Turn S) :
    Prop where
  /-- There are runs in which the transform was never started. -/
  comparable : ∃ (h' : History S) (s' : Session S), Run filter h' s' ∧ Without n h h'
  /-- The registry is that of such a run exactly if the transform was dropped while it waited for
  the generator, or its entry has been overwritten. -/
  registry_eq_iff : ∀ (h' : History S) (s' : Session S), Run filter h' s' → Without n h h' →
    (s.registry = s'.registry ↔
      (∃ code id, u.before.flight? n = some (.generating code id)) ∨ Overwritten n h)
  /-- In this case a write that would be a modification, had the transform never been started, is
  one, and it is announced to the attached server. -/
  renewed : (∃ code id, u.before.flight? n = some (.generating code id)) ∨ Overwritten n h →
    ∀ (h' : History S) (s' : Session S), Run filter h' s' → Without n h h' →
    ∀ m code id artifact server, s.flight? m = some (.generating code id) →
      Session.Writes code artifact → (s'.changeBy id artifact).isModified = true →
      s.notifier.server = some server →
      ∃ r, s.step (.generated m (.ok artifact)) = some r ∧
        Turn.calls ⟨s, .generated m (.ok artifact), r⟩ =
          [(server, .lookup (Address.ofToken (.ofIdentity id)))]
  /-- In every other case the next transform of the file with the same styles finds them registered
  and calls no server, although the write would be a modification, had the transform never been
  started. -/
  silenced : ¬ ((∃ code id, u.before.flight? n = some (.generating code id)) ∨ Overwritten n h) →
    ∃ c ∈ commits h, c.flight = n ∧
      (∀ m code, s.flight? m = some (.generating code c.id) → Session.Writes code c.artifact →
        ∃ r, s.step (.generated m (.ok c.artifact)) = some r ∧
          r.answer = .returned (.ok (some (outputOf code c.id))) ∧
          Turn.calls ⟨s, .generated m (.ok c.artifact), r⟩ = []) ∧
      ∀ (h' : History S) (s' : Session S), Run filter h' s' → Without n h h' →
        (s'.changeBy c.id c.artifact).isModified = true

theorem overwritten_iff {n : Nat} {h : History S} {xs ys : List Commit} {c : Commit}
    (hc : commits (turnsOf h n) = [c]) (hn : c.flight = n) (hcs : commits h = xs ++ c :: ys) :
    Overwritten n h ↔ ∃ d ∈ ys, d.token = c.token := by
  rw [commits_turnsOf_eq] at hc
  constructor
  · rintro ⟨xs', c', ys', hcs', hn', hd⟩
    have hx := (ne_of_filter_eq (hcs ▸ hc) hn).1
    have hx' := (ne_of_filter_eq (hcs' ▸ hc) hn').1
    obtain ⟨rfl, rfl⟩ := after_eq (hcs.symm.trans hcs') hx hn hx' hn'
    exact hd
  · exact fun hd => ⟨xs, c, ys, hcs, hn, hd⟩

namespace Run

variable {filter : Filter} {h : History S} {s : Session S} {u : Turn S} {n : Nat}

theorem registry_without_idle (run : Run filter h s) (hc : commits (turnsOf h n) = [])
    {h' : History S} {s' : Session S} (run' : Run filter h' s') (hw : Without n h h') :
    s.registry = s'.registry := by
  have hall : (commits h).filter (fun c => c.flight ≠ n) = commits h := by
    refine List.filter_eq_self.mpr fun c hmem => ?_
    rw [commits_turnsOf_eq] at hc
    simpa using List.filter_eq_nil_iff.mp hc c hmem
  rw [run.registry_eq, run'.registry_eq, run.commits_without run' hw, hall]

/-- A transform that announced a modification leaves its entry behind, until it is overwritten. -/
theorem registry_without_announced (run : Run filter h s) {c : Commit} {server : S}
    (hc : commits (turnsOf h n) = [c]) (hu : u ∈ turnsOf h n) (ha : u.Announces c server) :
    c ∈ commits h ∧ c.flight = n ∧ (¬ Overwritten n h → s.registry.get? c.token = some c.entry) ∧
      ∀ (h' : History S) (s' : Session S), Run filter h' s' → Without n h h' →
        (s.registry = s'.registry ↔ Overwritten n h) ∧
        (¬ Overwritten n h → s'.registry.get? c.token ≠ some c.entry) := by
  have hmem : c ∈ commits (turnsOf h n) := hc ▸ List.mem_singleton_self c
  obtain ⟨hch, hn⟩ := mem_commits_turnsOf.mp hmem
  obtain ⟨xs, ys, hcs, hne⟩ := run.split_commits (mem_turnsOf.mp hu).1 ha
  have hover := overwritten_iff hc hn hcs
  have hlast : ¬ Overwritten n h → ys.filter (fun d => d.token = c.token) = [] := by
    intro hno
    refine List.filter_eq_nil_iff.mpr fun d hd hdc => hno (hover.mpr ⟨d, hd, ?_⟩)
    simpa using hdc
  obtain ⟨hx, hy⟩ := ne_of_filter_eq (hcs ▸ commits_turnsOf_eq h n ▸ hc) hn
  refine ⟨hch, hn, fun hno => ?_, fun h' s' run' hw => ?_⟩
  · rw [run.registry_eq, hcs, Registry.replay_append, Registry.replay_cons, Registry.get?_replay,
      hlast hno, Registry.get?_put_self]
    rfl
  · have hcs' : commits h' = xs ++ ys := by
      rw [run.commits_without run' hw, hcs, filter_ne_eq hx hn hy]
    constructor
    · rw [run.registry_eq, run'.registry_eq, hcs, hcs', Registry.replay_erase_iff hne, hover]
    · intro hno
      rw [run'.registry_eq, hcs', Registry.replay_append, Registry.get?_replay, hlast hno]
      exact hne

theorem registry_eq_without_iff (run : Run filter h s) (hu : u ∈ h) (he : u.event = .drop n)
    {h' : History S} {s' : Session S} (run' : Run filter h' s') (hw : Without n h h') :
    s.registry = s'.registry ↔
      (∃ code id, u.before.flight? n = some (.generating code id)) ∨ Overwritten n h := by
  rcases (run.drop_cases hu he).2 with ⟨hg, hc⟩ | ⟨⟨notice, output, hn⟩, c, server, hc, v, hv, ha⟩
  · exact ⟨fun _ => .inl hg, fun _ => run.registry_without_idle hc run' hw⟩
  · obtain ⟨-, -, -, hall⟩ := run.registry_without_announced hc hv ha
    constructor
    · exact fun heq => .inr ((hall h' s' run' hw).1.mp heq)
    · rintro (⟨code, id, hg⟩ | ho)
      · rw [hn] at hg
        cases hg
      · exact (hall h' s' run' hw).1.mpr ho

/-- **What a dropped transform leaves behind.** -/
theorem drop_effect (run : Run filter h s) (hu : u ∈ h) (he : u.event = .drop n) :
    DropEffect filter n h s u where
  comparable := run.exists_without n
  registry_eq_iff _ _ run' hw := run.registry_eq_without_iff hu he run' hw
  renewed hkept h' s' run' hw m code id artifact server hm hwr hmod hv := by
    have heq := (run.registry_eq_without_iff hu he run' hw).mpr hkept
    have hmod' : (s.changeBy id artifact).isModified = true := by
      unfold Session.changeBy at hmod ⊢
      rw [heq]
      exact hmod
    exact ⟨_, Session.step_of_takes (.notify hm hwr hmod' hv), rfl⟩
  silenced hnot := by
    obtain ⟨hgen, hover⟩ := not_or.mp hnot
    rcases (run.drop_cases hu he).2 with ⟨hg, -⟩ | ⟨-, c, server, hc, v, hv, ha⟩
    · exact absurd hg hgen
    · obtain ⟨hch, hn, hget, hall⟩ := run.registry_without_announced hc hv ha
      refine ⟨c, hch, hn, fun m code hm hwr => ?_, fun h' s' run' hw => ?_⟩
      · have hquiet : (s.changeBy c.id c.artifact).isModified = false := by
          have hun : s.registry.change c.token c.entry = .unchanged :=
            Registry.change_eq_unchanged_iff.mpr (hget hover)
          exact congrArg Change.isModified hun
        exact ⟨_, Session.step_of_takes (.settle hm hwr (.inl hquiet)), rfl, rfl⟩
      · exact Registry.isModified_change.mpr ((hall h' s' run' hw).2 hover)

end Run

/-- A transform that is dropped while it waits for its lookup. -/
theorem drop_effect_at_lookup :
    ∃ (h : History String) (s : Session String) (u : Turn String), Run .all h s ∧ u ∈ h ∧
      u.event = .drop 0 ∧ DropEffect .all 0 h s u := by
  have run : Run .all [] (Session.fresh .all : Session String) := .fresh
  replace run := run.turn (Session.step_of_takes (.attach "v")) (by simp [Event.starts?])
  replace run := run.turn (e := .start 0 "" "/src/a.ts")
    (Session.step_of_takes (.launch rfl (by decide +kernel))) (by simp [Event.flight?])
  replace run := run.turn (e := .generated 0 (.ok (some "x")))
    (Session.step_of_takes (.notify rfl (by decide) (by decide +kernel) rfl))
    (by simp [Event.starts?])
  replace run := run.turn (e := .drop 0) (Session.step_of_takes (.drop rfl))
    (by simp [Event.starts?])
  exact ⟨_, _, _, run, List.mem_append_right _ List.mem_cons_self, rfl,
    run.drop_effect (List.mem_append_right _ List.mem_cons_self) rfl⟩

/-- Its entry stays, although nothing would be registered if it had never been started. -/
theorem dropped_at_lookup_registered :
    ∃ (h h' : History String) (s s' : Session String), Run .all h s ∧ Run .all h' s' ∧
      (∃ u ∈ h, u.event = .drop 0) ∧ Without 0 h h' ∧ s'.registry.isEmpty = true ∧
      s.registry.get? (.ofIdentity "/src/a.ts") = some ⟨"/src/a.ts", some "x"⟩ := by
  obtain ⟨h, s, run, hp⟩ := exists_run_of_follow? .all
    [.attach "v", .start 0 "" "/src/a.ts", .generated 0 (.ok (some "x")), .drop 0]
    (fun q => (q.1.any fun u => u.event.dropped? = some 0) ∧
      ((inputs q.1).all fun e => e.flight? = some 0) ∧
      q.2.registry.get? (.ofIdentity "/src/a.ts") = some ⟨"/src/a.ts", some "x"⟩)
    (by decide +kernel)
  obtain ⟨hd, hi, hget⟩ := of_decide_eq_true hp
  refine ⟨h, [], s, _, run, .fresh, ?_, ?_, rfl, hget⟩
  · obtain ⟨u, hu, he⟩ := List.any_eq_true.mp hd
    exact ⟨u, hu, Event.eq_drop (of_decide_eq_true he)⟩
  · refine (List.filter_eq_nil_iff.mpr fun e he => ?_).symm
    simpa using List.all_eq_true.mp hi e he

end ScopedStyles
