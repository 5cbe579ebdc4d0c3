import ScopedStyles.Proofs.Session.Dropped
import ScopedStyles.Proofs.Session.Restriction

/-! # Transforms that come to nothing leave no trace

A transform comes to nothing if its file is filtered out, the generator fails, the transform is
dropped while it waits for the generator, or there are neither styles nor a scope import
(`Turn.fruitless?`).  It may overlap with any others, of the same file too.

`Run.invisible` takes a run and any set of such transforms.  The others, and the host, can go on
without them as before, and then everything is the same after every turn: the registry, what the
host gets for any id, the calls to the generator and to servers, the log and the results
(`Invisible`).  A transform that came to nothing returns nothing, or the failure of the generator
under the id of its own file. -/

namespace ScopedStyles

open History

variable {S : Type}

/-! ### Coming to nothing -/

/-- The transform that comes to nothing in a turn. -/
def Turn.fruitless? (u : Turn S) : Option Nat :=
  match u.event with
  | .start n _ id => if u.before.isCandidate id then none else some n
  | .generated n (.error _) => some n
  | .generated n (.ok none) =>
      match u.before.flight? n with
      | some (.generating code _) => if ScopeImport.isPresent code then none else some n
      | _ => none
  | .drop n =>
      match u.before.flight? n with
      | some (.generating _ _) => some n
      | _ => none
  | _ => none

/-- A transform of a history comes to nothing. -/
def History.Fruitless (h : History S) (n : Nat) : Prop := ∃ u ∈ h, u.fruitless? = some n

/-- A turn in which a transform comes to nothing: what it returns is no output, or it is dropped
while it waits for the generator. -/
theorem Session.Takes.fruitless_cases {s : Session S} {e : Event S} {r : Stepped S} {n : Nat}
    (ht : s.Takes e r) (hn : Turn.fruitless? ⟨s, e, r⟩ = some n) :
    (∃ result, Turn.returned? ⟨s, e, r⟩ = some (n, result) ∧
        ¬ ∃ output, result = .ok (some output)) ∨
      e = .drop n ∧ ∃ code id, s.flight? n = some (.generating code id) := by
  cases ht with
  | skip _ hc =>
      simp only [Turn.fruitless?, hc, Bool.false_eq_true, ↓reduceIte, Option.some.injEq] at hn
      subst hn
      exact .inl ⟨_, rfl, by simp⟩
  | launch _ hc =>
      simp only [Turn.fruitless?, hc, ↓reduceIte] at hn
      cases hn
  | fail _ =>
      obtain rfl := Option.some.inj hn
      exact .inl ⟨_, rfl, by simp⟩
  | @pass m code id artifact _ hw =>
      cases artifact with
      | some _ => cases hn
      | none =>
          obtain rfl : m = n := by
            simp only [Turn.fruitless?] at hn
            split at hn
            · split at hn
              · cases hn
              · exact Option.some.inj hn
            · cases hn
          exact .inl ⟨_, rfl, by simp⟩
  | @settle m code id artifact hg hw _ =>
      cases artifact with
      | some _ => cases hn
      | none =>
          have hp : ScopeImport.isPresent code = true := hw.resolve_left (· rfl)
          simp only [Turn.fruitless?, hg, hp, ↓reduceIte] at hn
          cases hn
  | @notify m code id artifact server hg hw _ _ =>
      cases artifact with
      | some _ => cases hn
      | none =>
          have hp : ScopeImport.isPresent code = true := hw.resolve_left (· rfl)
          simp only [Turn.fruitless?, hg, hp, ↓reduceIte] at hn
          cases hn
  | @drop m f hf =>
      cases f with
      | generating code id =>
          simp only [Turn.fruitless?, hf, Option.some.injEq] at hn
          subst hn
          exact .inr ⟨rfl, code, id, hf⟩
      | notifying notice output =>
          simp only [Turn.fruitless?, hf] at hn
          cases hn
  | _ => cases hn

namespace Run

variable {filter : Filter} {h : History S} {s : Session S} {n : Nat}

theorem idle_of_fruitless (run : Run filter h s) (hn : h.Fruitless n) :
    commits (turnsOf h n) = [] ∧ calls (turnsOf h n) = [] := by
  obtain ⟨u, hu, hun⟩ := hn
  have hc : commits (turnsOf h n) = [] := by
    rcases (run.takes_of_mem hu).fruitless_cases hun with ⟨result, hr, hno⟩ | ⟨he, code, id, hg⟩
    · have hmem : (n, result) ∈ returns (turnsOf h n) :=
        mem_returns_turnsOf.mpr ⟨mem_returns.mpr ⟨u, hu, hr⟩, rfl⟩
      rcases (run.life n).outcome with ⟨hc, -, -⟩ | ⟨c, -, -, hout, -⟩
      · exact hc
      · exact absurd ⟨_, hout _ hmem⟩ hno
    · rcases (run.drop_cases hu he).2 with ⟨-, hc⟩ | ⟨⟨notice, output, hf⟩, -⟩
      · exact hc
      · rw [hg] at hf
        cases hf
  rcases (run.life n).outcome with ⟨-, hk, -⟩ | ⟨c, -, hc', -, -⟩
  · exact ⟨hc, hk⟩
  · rw [hc] at hc'
    cases hc'

/-- The turn after which a transform is gone is its last one. -/
theorem turnsOf_eq_concat (run : Run filter h s) {u : Turn S} (hu : u ∈ h)
    (hn : u.event.flight? = some n) (hgone : u.after.session.flight? n = none) :
    s.flight? n = none ∧ ∃ us, turnsOf h n = us ++ [u] := by
  induction run with
  | fresh => cases hu
  | @turn h s e r run hstep hnew ih =>
      have ht := Session.takes_of_step hstep
      rcases List.mem_append.mp hu with hu | hu
      · obtain ⟨hnone, us, hus⟩ := ih hu
        have hne : e.flight? ≠ some n := fun he =>
          hnew n (ht.starts?_of_flight? hnone he) u hu hn
        rw [turnsOf_concat_of_ne h ⟨s, e, r⟩ hne, ht.flight?_of_ne hne]
        exact ⟨hnone, us, hus⟩
      · obtain rfl := List.mem_singleton.mp hu
        exact ⟨hgone, _, turnsOf_concat_self h ⟨s, e, r⟩ hn⟩

theorem started_of_mem (run : Run filter h s) {u : Turn S} (hu : u ∈ h)
    (hn : u.event.flight? = some n) : ∃ code id, ∃ v ∈ h, v.event = .start n code id := by
  obtain ⟨h₁, h₂, rfl, run₁, ht⟩ := run.split hu
  cases hf : u.before.flight? n with
  | none =>
      have hs := ht.starts?_of_flight? hf hn
      cases he : u.event with
      | start m code id =>
          rw [he] at hs
          obtain rfl := Option.some.inj hs
          exact ⟨code, id, u, hu, he⟩
      | _ => rw [he] at hs; cases hs
  | some f =>
      have hl := run₁.life n
      rw [hf] at hl
      have started {code id : String} (hfile : file? (turnsOf h₁ n) = some (code, id)) :
          ∃ code id, ∃ v ∈ h₁ ++ u :: h₂, v.event = .start n code id := by
        obtain ⟨v, hv, he⟩ := run₁.file?_turnsOf_iff.mp hfile
        exact ⟨code, id, v, List.mem_append_left _ hv, he⟩
      cases hl with
      | generating hfile _ _ _ => exact started hfile
      | notifying hfile _ _ _ _ _ _ => exact started hfile

end Run

/-! ### Results -/

namespace Session.Takes

variable {s : Session S} {e : Event S} {r : Stepped S} {n : Nat} {result : Returned}

theorem returned_cases (ht : Takes s e r) (hr : Turn.returned? ⟨s, e, r⟩ = some (n, result)) :
    r.session.flight? n = none ∧
      ((result = .ok none ∧ ∀ source, e ≠ .generated n (.error source)) ∨
        (∃ code id source, s.flight? n = some (.generating code id) ∧
          e = .generated n (.error source) ∧ result = .error ⟨id, source⟩) ∨
        ∃ output, result = .ok (some output)) := by
  cases ht with
  | skip hn _ => cases hr; exact ⟨hn, .inl ⟨rfl, fun _ he => by cases he⟩⟩
  | fail hn => cases hr; exact ⟨flight?_land_self s _, .inr (.inl ⟨_, _, _, hn, rfl, rfl⟩)⟩
  | pass _ _ => cases hr; exact ⟨flight?_land_self s _, .inl ⟨rfl, fun _ he => by cases he⟩⟩
  | settle _ _ _ => cases hr; exact ⟨flight?_land_self _ _, .inr (.inr ⟨_, rfl⟩)⟩
  | finish _ _ => cases hr; exact ⟨flight?_land_self s _, .inr (.inr ⟨_, rfl⟩)⟩
  | _ => cases hr

end Session.Takes

theorem Run.returned_of_fruitless {filter : Filter} {h : History S} {s : Session S} {n : Nat}
    {result : Returned} (run : Run filter h s) (hn : h.Fruitless n)
    (hr : (n, result) ∈ returns h) : ∃ code id, (∃ u ∈ h, u.event = .start n code id) ∧
      ((result = .ok none ∧ ∀ u ∈ h, ∀ source, u.event ≠ .generated n (.error source)) ∨
        ∃ source, (∃ u ∈ h, u.event = .generated n (.error source)) ∧
          result = .error ⟨id, source⟩) := by
  obtain ⟨u, hu, hur⟩ := mem_returns.mp hr
  have hun := Turn.flight?_of_returned? hur
  obtain ⟨hgone, hcases⟩ := (run.takes_of_mem hu).returned_cases hur
  rcases hcases with ⟨rfl, hne⟩ | ⟨code, id, source, hg, he, rfl⟩ | ⟨output, rfl⟩
  · obtain ⟨code, id, hs⟩ := run.started_of_mem hu hun
    refine ⟨code, id, hs, .inl ⟨rfl, fun v hv source he => ?_⟩⟩
    -- A transform that fails is gone, too, so this is the same turn.
    have hvn : v.event.flight? = some n := by rw [he]; rfl
    have hvgone : v.after.session.flight? n = none := by
      have htv := run.takes_of_mem hv
      rw [he] at htv
      generalize v.after = r at htv
      cases htv with
      | fail _ => exact Session.flight?_land_self _ _
    obtain ⟨-, us, hus⟩ := run.turnsOf_eq_concat hu hun hgone
    obtain ⟨-, vs, hvs⟩ := run.turnsOf_eq_concat hv hvn hvgone
    obtain ⟨-, huv⟩ := List.append_inj' (hus.symm.trans hvs) rfl
    obtain rfl := List.singleton_inj.mp huv
    exact hne source he
  · obtain ⟨h₁, h₂, rfl, run₁, -⟩ := run.split hu
    obtain ⟨v, hv, hve⟩ := run₁.started_of_generating hg
    exact ⟨code, id, ⟨v, List.mem_append_left _ hv, hve⟩, .inr ⟨source, ⟨u, hu, he⟩, rfl⟩⟩
  · obtain ⟨c, hc, hcn⟩ := run.committed_of_output hr rfl
    have hmem := mem_commits_turnsOf.mpr ⟨hc, hcn⟩
    rw [(run.idle_of_fruitless hn).1] at hmem
    cases hmem

/-! ### The main statement -/

/-- The turn `v` is the turn `u`: the same happens and is shown, the registry is the same
afterwards, and the host is answered the same, whatever it asks for then. -/
structure Turn.Same (u v : Turn S) : Prop where
  event_eq : v.event = u.event
  effects_eq : v.after.effects = u.after.effects
  answer_eq : v.after.answer = u.after.answer
  registry_eq : v.after.session.registry = u.after.session.registry
  asked_eq : ∀ e : Event S, e.flight? = none →
    (v.after.session.step e).map (·.answer) = (u.after.session.step e).map (·.answer)

theorem History.same_of_alike {h h' : History S}
    (ha : List.Forall₂ (Turn.Alike fun _ => True) h h')
    (hs : ∀ u ∈ h, u.after.session.registry.Sorted)
    (hs' : ∀ v ∈ h', v.after.session.registry.Sorted) : List.Forall₂ Turn.Same h h' := by
  induction ha with
  | nil => exact .nil
  | @cons u v h h' huv _ ih =>
      obtain ⟨hu, hs⟩ := List.forall_mem_cons.mp hs
      obtain ⟨hv, hs'⟩ := List.forall_mem_cons.mp hs'
      obtain ⟨heffects, hanswer⟩ := huv.shown_eq fun _ _ _ _ => trivial
      have hr : v.after.session.registry = u.after.session.registry :=
        hv.ext hu fun t => huv.get?_eq t trivial
      refine .cons ⟨huv.event_eq, heffects, hanswer, hr, fun e he => ?_⟩ (ih hs hs')
      cases e with
      | load id => simp [Session.step, hr]
      | resolve id => rfl
      | attach server => rfl
      | _ => cases he

theorem History.returns_eq_of_same {h h' : History S} (hs : List.Forall₂ Turn.Same h h') :
    returns h' = returns h := by
  induction hs with
  | nil => rfl
  | @cons u v h h' huv _ ih =>
      have hr : v.returned? = u.returned? := by
        unfold Turn.returned?
        rw [huv.event_eq, huv.answer_eq]
      unfold returns at ih ⊢
      rw [List.filterMap_cons, List.filterMap_cons, hr, ih]

/-- The transforms in `gone` cannot be told from transforms that were never started. -/
structure Invisible (filter : Filter) (gone : Nat → Bool) (h : History S) (s : Session S) :
    Prop where
  /-- Without them everything else can happen as before, with the same answers of the generator and
  the same replies of the servers. -/
  comparable : ∃ (h' : History S) (s' : Session S), Run filter h' s' ∧
    events h' = events (h.only fun n => !gone n)
  /-- Every turn that remains is then the same. -/
  same : ∀ (h' : History S) (s' : Session S), Run filter h' s' →
    events h' = events (h.only fun n => !gone n) →
    List.Forall₂ Turn.Same (h.only fun n => !gone n) h'
  /-- In the end, too, the registry is the same. -/
  registry_eq : ∀ (h' : History S) (s' : Session S), Run filter h' s' →
    events h' = events (h.only fun n => !gone n) → s'.registry = s.registry
  /-- All calls to servers are made by the others. -/
  calls_eq : ∀ (h' : History S) (s' : Session S), Run filter h' s' →
    events h' = events (h.only fun n => !gone n) → calls h' = calls h
  /-- The others return what they returned. -/
  returns_eq : ∀ (h' : History S) (s' : Session S), Run filter h' s' →
    events h' = events (h.only fun n => !gone n) →
    returns h' = (returns h).filter fun p => !gone p.1
  /-- What is left out returned nothing, or the failure of the generator under its own id. -/
  returned : ∀ n result, gone n = true → (n, result) ∈ returns h →
    ∃ code id, (∃ u ∈ h, u.event = .start n code id) ∧
      ((result = .ok none ∧ ∀ u ∈ h, ∀ source, u.event ≠ .generated n (.error source)) ∨
        ∃ source, (∃ u ∈ h, u.event = .generated n (.error source)) ∧
          result = .error ⟨id, source⟩)

/-- **Transforms that come to nothing leave no trace.** -/
theorem Run.invisible {filter : Filter} {h : History S} {s : Session S} (run : Run filter h s)
    (gone : Nat → Bool) (hgone : ∀ n, gone n = true → h.Fruitless n) :
    Invisible filter gone h s := by
  have hkept : ∀ u ∈ h, ∀ n code id, u.event = .start n code id → (!gone n) = true → True :=
    fun _ _ _ _ _ _ _ => trivial
  have hleft : ∀ c ∈ commits h, (!gone c.flight) = false → ¬ True := by
    intro c hc hn
    have hidle := (run.idle_of_fruitless (hgone c.flight (by simpa using hn))).1
    rw [run.commits_turnsOf hc] at hidle
    cases hidle
  have alike {h' : History S} {s' : Session S} (run' : Run filter h' s')
      (he : events h' = events (h.only fun n => !gone n)) :
      List.Forall₂ (Turn.Alike fun _ => True) (h.only fun n => !gone n) h' ∧
        Session.Agree (fun n => !gone n) (fun _ => True) s s' :=
    run.alike_of_events hkept hleft run' he
  have same {h' : History S} {s' : Session S} (run' : Run filter h' s')
      (he : events h' = events (h.only fun n => !gone n)) :
      List.Forall₂ Turn.Same (h.only fun n => !gone n) h' :=
    same_of_alike (alike run' he).1 (fun u hu => run.sorted_of_mem (mem_of_mem_only hu))
      fun v hv => run'.sorted_of_mem hv
  refine ⟨?_, fun h' s' run' he => same run' he, fun h' s' run' he => ?_, fun h' s' run' he => ?_,
    fun h' s' run' he => ?_, fun n result hn hr => run.returned_of_fruitless (hgone n hn) hr⟩
  · obtain ⟨h', s', run', ha, -⟩ := run.exists_only (T := fun _ => True) hkept hleft
    exact ⟨h', s', run', events_eq_of_alike ha⟩
  · exact run'.sorted.ext run.sorted fun t => (alike run' he).2.get?_eq t trivial
  · have hall : calls (h.only fun n => !gone n) = calls h := by
      conv_rhs => rw [← List.filter_true h]
      refine calls_filter_congr fun u hu hc => ?_
      cases hn : u.event.flight? with
      | none => rfl
      | some n =>
          -- A transform that comes to nothing calls nobody.
          cases hg : gone n with
          | false => simp [hg]
          | true =>
              have hidle := (run.idle_of_fruitless (hgone n hg)).2
              exact absurd (List.flatMap_eq_nil_iff.mp hidle u (mem_turnsOf.mpr ⟨hu, hn⟩)) hc
    rw [← hall]
    exact calls_eq_of_alike (alike run' he).1
      (fun u hu => run.takes_of_mem (mem_of_mem_only hu)) fun v hv => run'.takes_of_mem hv
  · rw [returns_eq_of_same (same run' he), returns_only]

/-- Five transforms of one session, four of which come to nothing: a stylesheet is filtered out, two
transforms of the file that is written are overtaken by a failure and a drop, and a plain file has
no styles. -/
theorem invisible_four_of_five :
    ∃ (h : History String) (s : Session String), Run .all h s ∧
      (∀ n, decide (n ∈ [0, 1, 2, 4]) = true → h.Fruitless n) ∧
      (0, .error ⟨"/src/a.ts", "no"⟩) ∈ returns h ∧
      Invisible .all (fun n => n ∈ [0, 1, 2, 4]) h s := by
  obtain ⟨h, s, run, hp⟩ := exists_run_of_follow? .all
    [.attach "v", .start 0 "" "/src/a.ts", .start 1 "" "/src/a.css", .start 2 "" "/src/a.ts",
      .start 3 "" "/src/a.ts", .start 4 "" "/src/b.ts", .generated 3 (.ok (some "x")),
      .generated 0 (.error "no"), .replied 3 (.found (some "m")), .drop 2, .poll 3,
      .generated 4 (.ok none), .replied 3 (.invalidated 0), .replied 3 (.sent none)]
    (fun q => q.1.filterMap Turn.fruitless? = [1, 0, 2, 4] ∧
      (0, .error ⟨"/src/a.ts", "no"⟩) ∈ returns q.1)
    (by decide +kernel)
  obtain ⟨hf, hr⟩ := of_decide_eq_true hp
  have hgone : ∀ n, decide (n ∈ [0, 1, 2, 4]) = true → h.Fruitless n := by
    intro n hn
    have hmem : n ∈ h.filterMap Turn.fruitless? := by
      rw [hf]
      simp only [List.mem_cons, List.not_mem_nil, or_false, decide_eq_true_eq] at hn ⊢
      omega
    exact List.mem_filterMap.mp hmem
  exact ⟨h, s, run, hgone, hr, run.invisible _ hgone⟩

end ScopedStyles
