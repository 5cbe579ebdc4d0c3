import Mathlib.Logic.Function.Basic
import ScopedStyles.Proofs.Session.Commits

/-! # What decides the commits of a run

The commits of a run depend on which transforms start and on what the generator answers them, in the
order of these events, and on nothing else: not on servers and their replies, on polls and drops, or
on what the host asks for (`Run.plan_inputs`).  So a run can be compared with the runs in which one
of its transforms is never started and the others start and are answered as before (`Without`):
there are such runs (`Run.exists_without`), and they make the same commits but for those of that
transform (`Run.commits_without`). -/

namespace ScopedStyles

open History

variable {S : Type}

/-- Whether an event is a start or an answer of the generator. -/
def Event.isInput : Event S → Bool
  | .start .. | .generated .. => true
  | _ => false

/-- The starts and the answers of the generator in a history, in their order. -/
def History.inputs (h : History S) : List (Event S) := (h.map (·.event)).filter Event.isInput

theorem History.inputs_concat (h : History S) (u : Turn S) :
    inputs (h ++ [u]) = inputs h ++ if u.event.isInput then [u.event] else [] := by
  unfold inputs
  rw [List.map_append, List.filter_append]
  by_cases hu : u.event.isInput <;> simp [hu]

/-- The starts and answers of `h'` are those of `h` without transform `n`. -/
def Without (n : Nat) (h h' : History S) : Prop :=
  inputs h' = (inputs h).filter fun e => e.flight? ≠ some n

/-! ### The plan of the inputs -/

/-- What inputs lead to: the files of the transforms that they start, and the commits. -/
structure Plan where
  files : Nat → Option (String × String)
  commits : List Commit

namespace Plan

def empty : Plan := ⟨fun _ => none, []⟩

def next (p : Plan) : Event S → Plan
  | .start n code id => { p with files := Function.update p.files n (some (code, id)) }
  | .generated n (.ok artifact) =>
      match p.files n with
      | some (code, id) =>
          if Session.Writes code artifact then
            { p with commits := p.commits ++ [⟨n, code, id, artifact⟩] }
          else p
      | none => p
  | _ => p

def of (es : List (Event S)) : Plan := es.foldl next empty

theorem of_concat (es : List (Event S)) (e : Event S) : of (es ++ [e]) = (of es).next e := by
  simp [of]

theorem of_inputs_concat (h : History S) (u : Turn S) :
    of (inputs (h ++ [u])) = (of (inputs h)).next u.event := by
  rw [inputs_concat]
  cases hu : u.event.isInput with
  | true => simp only [↓reduceIte, of_concat]
  | false =>
      rw [if_neg (by simp), List.append_nil]
      generalize u.event = e at hu
      cases e with
      | start _ _ _ => cases hu
      | generated _ _ => cases hu
      | _ => rfl

theorem next_generated {p : Plan} {n : Nat} {code id : String} (hf : p.files n = some (code, id))
    (artifact : Option String) :
    p.next (.generated n (.ok artifact) : Event S) =
      if Session.Writes code artifact then
        { p with commits := p.commits ++ [⟨n, code, id, artifact⟩] }
      else p := by
  simp only [next, hf]

theorem files_next_of_ne {p : Plan} {e : Event S} {m : Nat} (he : e.starts? ≠ some m) :
    (p.next e).files m = p.files m := by
  cases e with
  | start n code id =>
      have hm : m ≠ n := fun h => he (congrArg some h.symm)
      exact Function.update_of_ne hm ..
  | generated n answer =>
      cases answer with
      | error _ => rfl
      | ok artifact =>
          simp only [next]
          split
          · split <;> rfl
          · rfl
  | _ => rfl

/-- The plan knows the files of the transforms that wait for the generator. -/
def Covers (p : Plan) (s : Session S) : Prop :=
  ∀ m code id, s.flight? m = some (.generating code id) → p.files m = some (code, id)

variable {p : Plan} {s : Session S} {e : Event S} {r : Stepped S}

theorem Covers.next (hp : p.Covers s) (ht : s.Takes e r) : (p.next e).Covers r.session := by
  intro m code id hm
  rcases ht.generating_cases hm with hs | ⟨rfl, -⟩
  · rw [files_next_of_ne, hp m code id hs]
    intro he
    obtain ⟨hnone, -⟩ := ht.flight?_of_starts? he
    rw [hs] at hnone
    cases hnone
  · exact Function.update_self ..

theorem commits_next (hp : p.Covers s) (ht : s.Takes e r) :
    (p.next e).commits = p.commits ++ (Turn.commit? ⟨s, e, r⟩).toList := by
  cases ht with
  | pass hn hw =>
      rw [next_generated (hp _ _ _ hn), if_neg hw]
      simp [Turn.commit?, Turn.change?, Turn.log]
  | settle hn hw _ =>
      rw [next_generated (hp _ _ _ hn), if_pos hw, Turn.commit?_of_change? hn rfl]
      rfl
  | notify hn hw _ _ =>
      rw [next_generated (hp _ _ _ hn), if_pos hw, Turn.commit?_of_change? hn rfl]
      rfl
  | _ => exact (List.append_nil _).symm

end Plan

/-- The commits of a run are those that its inputs lead to. -/
theorem Run.plan_inputs {filter : Filter} {h : History S} {s : Session S} (run : Run filter h s) :
    (Plan.of (inputs h)).commits = commits h ∧ (Plan.of (inputs h)).Covers s := by
  induction run with
  | fresh => exact ⟨rfl, fun m code id hm => by cases hm⟩
  | @turn h s e r _ hstep _ ih =>
      obtain ⟨hc, hp⟩ := ih
      have ht := Session.takes_of_step hstep
      rw [Plan.of_inputs_concat, commits_concat, ← hc]
      exact ⟨Plan.commits_next hp ht, hp.next ht⟩

/-! ### Leaving out one transform -/

/-- `p'` is `p` without transform `n`. -/
structure Plan.Lacks (n : Nat) (p p' : Plan) : Prop where
  files_eq : ∀ m, m ≠ n → p'.files m = p.files m
  commits_eq : p'.commits = p.commits.filter fun c => c.flight ≠ n

namespace Plan.Lacks

variable {n : Nat} {p p' : Plan} {e : Event S}

theorem skip (hp : Lacks n p p') (he : e.flight? = some n) : Lacks n (p.next e) p' where
  files_eq m hm := by
    rw [hp.files_eq m hm, files_next_of_ne]
    intro hs
    cases e with
    | start k code id =>
        obtain rfl := Option.some.inj hs
        exact hm (Option.some.inj he)
    | _ => cases hs
  commits_eq := by
    rw [hp.commits_eq]
    cases e with
    | generated k answer =>
        obtain rfl := Option.some.inj he
        cases answer with
        | error _ => rfl
        | ok artifact =>
            simp only [next]
            split
            · split <;> simp
            · rfl
    | _ => rfl

theorem next (hp : Lacks n p p') (he : e.flight? ≠ some n) : Lacks n (p.next e) (p'.next e) := by
  cases e with
  | start k code id =>
      refine ⟨fun m hm => ?_, hp.commits_eq⟩
      by_cases hk : m = k
      · subst hk
        simp [Plan.next]
      · simp [Plan.next, hk, hp.files_eq m hm]
  | generated k answer =>
      have hk : k ≠ n := fun h => he (congrArg some h)
      cases answer with
      | error _ => exact hp
      | ok artifact =>
          simp only [Plan.next, hp.files_eq k hk]
          split
          · split
            · refine ⟨hp.files_eq, ?_⟩
              simp [hp.commits_eq, hk]
            · exact hp
          · exact hp
  | _ => exact hp

theorem foldl (hp : Lacks n p p') (es : List (Event S)) :
    Lacks n (es.foldl Plan.next p)
      ((es.filter fun e => e.flight? ≠ some n).foldl Plan.next p') := by
  induction es generalizing p p' with
  | nil => exact hp
  | cons e es ih =>
      by_cases he : e.flight? = some n
      · rw [List.filter_cons_of_neg (by simp [he])]
        exact ih (hp.skip he)
      · rw [List.filter_cons_of_pos (by simp [he])]
        exact ih (hp.next he)

end Plan.Lacks

theorem Without.skip {n : Nat} {h h' : History S} {u : Turn S} (hw : Without n h h')
    (hu : u.event.isInput = false ∨ u.event.flight? = some n) : Without n (h ++ [u]) h' := by
  unfold Without at hw ⊢
  rw [hw, inputs_concat]
  rcases hu with hu | hu
  · simp [hu]
  · by_cases hi : u.event.isInput <;> simp [hi, hu]

theorem Without.next {n : Nat} {h h' : History S} {u v : Turn S} (hw : Without n h h')
    (huv : v.event = u.event) (hi : u.event.isInput = true) (hu : u.event.flight? ≠ some n) :
    Without n (h ++ [u]) (h' ++ [v]) := by
  unfold Without at hw ⊢
  rw [inputs_concat, inputs_concat, huv, hw]
  simp [hi, hu]

namespace Session.Takes

variable {s : Session S} {r : Stepped S} {m : Nat}

theorem generating_of_answer {answer : Except String (Option String)}
    (ht : Takes s (.generated m answer) r) :
    ∃ code id, s.flight? m = some (.generating code id) := by
  cases ht with
  | fail hn => exact ⟨_, _, hn⟩
  | pass hn _ => exact ⟨_, _, hn⟩
  | settle hn _ _ => exact ⟨_, _, hn⟩
  | notify hn _ _ _ => exact ⟨_, _, hn⟩

theorem not_generating_of_answer {answer : Except String (Option String)}
    (ht : Takes s (.generated m answer) r) (code id : String) :
    r.session.flight? m ≠ some (.generating code id) := by
  cases ht <;> simp

/-- An input that a session takes is also taken by a session in which its transform stands the same,
and afterwards the transforms that wait for the generator still do so in both. -/
theorem shadow {s' : Session S} {e : Event S} {n : Nat} (ht : Takes s e r)
    (hi : e.isInput = true) (hn : e.flight? ≠ some n) (hf : s.filter = s'.filter)
    (hnew : ∀ m, e.starts? = some m → s'.flight? m = none)
    (hg : ∀ m code id, m ≠ n → s.flight? m = some (.generating code id) →
      s'.flight? m = some (.generating code id)) :
    ∃ r', s'.step e = some r' ∧
      ∀ m code id, m ≠ n → r.session.flight? m = some (.generating code id) →
        r'.session.flight? m = some (.generating code id) := by
  cases e with
  | start k code id =>
      have hnone := hnew k rfl
      have ht' : s'.Takes (.start k code id) (s'.start k code id) := takes_start hnone
      refine ⟨_, step_of_takes ht', fun m code' id' hm hgen => ?_⟩
      rcases ht.generating_cases hgen with hs | ⟨he, hc⟩
      · have hs' := hg m code' id' hm hs
        have hk : (Event.start k code id : Event S).flight? ≠ some m := by
          intro h
          cases h
          rw [hnone] at hs'
          cases hs'
        rw [ht'.flight?_of_ne hk]
        exact hs'
      · cases he
        rw [isCandidate_congr hf] at hc
        simp [start, hc]
  | generated k answer =>
      obtain ⟨code, id, hk⟩ := ht.generating_of_answer
      have hkn : k ≠ n := fun h => hn (congrArg some h)
      have ht' := takes_generated (hg k code id hkn hk) answer
      refine ⟨_, step_of_takes ht', fun m code' id' hm hgen => ?_⟩
      have hmk : (Event.generated k answer : Event S).flight? ≠ some m := by
        intro h
        cases h
        exact ht.not_generating_of_answer _ _ hgen
      rw [ht'.flight?_of_ne hmk]
      rw [ht.flight?_of_ne hmk] at hgen
      exact hg m code' id' hm hgen
  | _ => cases hi

end Session.Takes

namespace Run

variable {filter : Filter} {h h' : History S} {s s' : Session S} {n : Nat}

theorem commits_without (run : Run filter h s) (run' : Run filter h' s') (hw : Without n h h') :
    commits h' = (commits h).filter fun c => c.flight ≠ n := by
  rw [← run'.plan_inputs.1, ← run.plan_inputs.1, hw]
  have hp : Plan.Lacks n Plan.empty Plan.empty := ⟨fun _ _ => rfl, rfl⟩
  exact (hp.foldl (inputs h)).commits_eq

/-- There is a run without transform `n` in which the others that wait for the generator do so too.
-/
theorem exists_shadow (run : Run filter h s) (n : Nat) :
    ∃ (h' : History S) (s' : Session S), Run filter h' s' ∧ Without n h h' ∧
      (∀ m code id, m ≠ n → s.flight? m = some (.generating code id) →
        s'.flight? m = some (.generating code id)) ∧
      ∀ u ∈ h', ∀ m, u.event.flight? = some m → ∃ v ∈ h, v.event.flight? = some m := by
  induction run with
  | fresh =>
      refine ⟨[], _, .fresh, rfl, fun m code id _ hm => ?_, fun u hu => ?_⟩
      · cases hm
      · cases hu
  | @turn h s e r run hstep hnew ih =>
      obtain ⟨h', s', run', hw, hg, hof⟩ := ih
      have ht := Session.takes_of_step hstep
      have hof' : ∀ u ∈ h', ∀ m, u.event.flight? = some m →
          ∃ v ∈ h ++ [⟨s, e, r⟩], v.event.flight? = some m := by
        intro u hu m hm
        obtain ⟨v, hv, hvm⟩ := hof u hu m hm
        exact ⟨v, List.mem_append_left _ hv, hvm⟩
      by_cases hi : e.isInput = true ∧ e.flight? ≠ some n
      · obtain ⟨hi, hn⟩ := hi
        -- The shadow takes the input too.
        have hunused : ∀ m, e.starts? = some m → s'.flight? m = none := by
          intro m hm
          refine run'.flight?_of_unused fun u hu hum => ?_
          obtain ⟨v, hv, hvm⟩ := hof u hu m hum
          exact hnew m hm v hv hvm
        obtain ⟨r', hstep', hg'⟩ :=
          ht.shadow hi hn (run.filter_eq.trans run'.filter_eq.symm) hunused hg
        refine ⟨h' ++ [⟨s', e, r'⟩], r'.session, run'.turn hstep' ?_, hw.next rfl hi hn, hg', ?_⟩
        · intro m hm u hu hum
          obtain ⟨v, hv, hvm⟩ := hof u hu m hum
          exact hnew m hm v hv hvm
        · intro u hu m hm
          rcases List.mem_append.mp hu with hu | hu
          · exact hof' u hu m hm
          · obtain rfl := List.mem_singleton.mp hu
            exact ⟨⟨s, e, r⟩, List.mem_append_right _ List.mem_cons_self, hm⟩
      · have hi' : e.isInput = false ∨ e.flight? = some n := by
          rcases Bool.eq_false_or_eq_true e.isInput with h | h
          · exact .inr (Decidable.of_not_not fun hn => hi ⟨h, hn⟩)
          · exact .inl h
        refine ⟨h', s', run', hw.skip hi', fun m code id hm hgen => ?_, hof'⟩
        rcases ht.generating_cases hgen with hs | ⟨rfl, -⟩
        · exact hg m code id hm hs
        · exact absurd ⟨rfl, fun h => hm (Option.some.inj h)⟩ hi

/-- The other transforms can start and be answered as before. -/
theorem exists_without (run : Run filter h s) (n : Nat) :
    ∃ (h' : History S) (s' : Session S), Run filter h' s' ∧ Without n h h' := by
  obtain ⟨h', s', run', hw, -⟩ := run.exists_shadow n
  exact ⟨h', s', run', hw⟩

end Run
end ScopedStyles
