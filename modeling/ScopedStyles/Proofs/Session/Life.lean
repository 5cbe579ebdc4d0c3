import ScopedStyles.Proofs.Session.Run

/-! # The life of one transform

`Life n us f` ties what the turns `us` of transform `n` show to where it stands.  While it waits for
the generator it has written nothing and called nobody.  While it waits for a server it has made one
commit, which announced a modification to that server, and its calls are the trail of its notice.
Once it is gone it has made one commit at most, and no calls without one that announced.

`Run.life` proves this of every transform of every run: a turn of another transform changes nothing
(`History.turnsOf_concat_of_ne`), a turn of its own goes by the rule that it follows (`Life.step`). -/

namespace ScopedStyles

open History

variable {S : Type}

/-- The code and the id that an event starts a transform on. -/
def Event.file? : Event S → Option (String × String)
  | .start _ code id => some (code, id)
  | _ => none

/-- The code and the id that a transform with these turns was started on. -/
def History.file? (us : History S) : Option (String × String) :=
  us.findSome? fun u => u.event.file?

theorem History.file?_concat {us : History S} {file : String × String} (u : Turn S)
    (h : History.file? us = some file) : History.file? (us ++ [u]) = some file := by
  unfold History.file? at h ⊢
  rw [List.findSome?_append, h]
  rfl

/-- What the turns of a transform show, by where it stands. -/
inductive Life (n : Nat) (us : History S) : Option (Flight S) → Prop
  | unstarted : us = [] → Life n us none
  | generating {code id : String} :
      file? us = some (code, id) → commits us = [] → calls us = [] → returns us = [] →
      Life n us (some (.generating code id))
  | notifying {c : Commit} {notice : Notice S} {output : Output} :
      file? us = some (c.code, c.id) → commits us = [c] →
      (∃ v ∈ us, v.Announces c notice.server) → notice.token = c.token →
      output = outputOf c.code c.id →
      Trail notice.server notice.address notice.stage (calls us) → returns us = [] →
      Life n us (some (.notifying notice output))
  /-- It was filtered out, failed, had nothing to write, or was dropped before it wrote. -/
  | idle :
      commits us = [] → calls us = [] → (∀ p ∈ returns us, ¬ ∃ output, p.2 = .ok (some output)) →
      Life n us none
  /-- It wrote and had nothing to announce. -/
  | settled {c : Commit} :
      file? us = some (c.code, c.id) → commits us = [c] → calls us = [] →
      (∀ p ∈ returns us, p.2 = .ok (some (outputOf c.code c.id))) → Life n us none
  /-- It wrote and set out to tell a server; it may have been dropped on the way. -/
  | told {c : Commit} {server : S} {stage : NoticeStage} :
      file? us = some (c.code, c.id) → commits us = [c] → (∃ v ∈ us, v.Announces c server) →
      Trail server (Address.ofToken c.token) stage (calls us) →
      (∀ p ∈ returns us, p.2 = .ok (some (outputOf c.code c.id))) → Life n us none

namespace Life

variable {n : Nat} {us : History S} {s : Session S} {e : Event S} {r : Stepped S}

theorem silent {f : Flight S} {u : Turn S} (hl : Life n us (some f)) (hc : u.commit? = none)
    (hk : u.calls = []) (hr : u.returned? = none) : Life n (us ++ [u]) (some f) := by
  cases hl with
  | generating hf h₁ h₂ h₃ =>
      refine .generating (file?_concat u hf) ?_ ?_ ?_
      · rw [commits_concat, h₁, hc]; rfl
      · rw [calls_concat, h₂, hk]; rfl
      · rw [returns_concat, h₃, hr]; rfl
  | notifying hf h₁ hv ht ho htr h₃ =>
      obtain ⟨v, hv, ha⟩ := hv
      refine .notifying (file?_concat u hf) ?_ ⟨v, List.mem_append_left _ hv, ha⟩ ht ho ?_ ?_
      · rw [commits_concat, h₁, hc]; rfl
      · rw [calls_concat, hk, List.append_nil]; exact htr
      · rw [returns_concat, h₃, hr]; rfl

theorem leave {code id : String} {u : Turn S} (hl : Life n us (some (.generating code id)))
    (hc : u.commit? = none) (hk : u.calls = [])
    (hr : ∀ p, u.returned? = some p → ¬ ∃ output, p.2 = .ok (some output)) :
    Life n (us ++ [u]) none := by
  cases hl with
  | generating _ h₁ h₂ h₃ =>
      refine .idle ?_ ?_ ?_
      · rw [commits_concat, h₁, hc]; rfl
      · rw [calls_concat, h₂, hk]; rfl
      · intro p hp
        rw [returns_concat, h₃, List.nil_append] at hp
        exact hr p (Option.mem_toList.mp hp)

/-- A notice that is over leaves its trail behind. -/
theorem part {notice : Notice S} {output : Output} {u : Turn S}
    (hl : Life n us (some (.notifying notice output))) (hc : u.commit? = none) (hk : u.calls = [])
    (hr : ∀ p, u.returned? = some p → p.2 = .ok (some output)) : Life n (us ++ [u]) none := by
  cases hl with
  | @notifying c _ _ hf h₁ hv ht ho htr h₃ =>
      obtain ⟨v, hv, ha⟩ := hv
      have htr' : Trail notice.server (Address.ofToken c.token) notice.stage
          (calls (us ++ [u])) := by
        rw [calls_concat, hk, List.append_nil, ← ht]
        exact htr
      refine .told (file?_concat u hf) ?_ ⟨v, List.mem_append_left _ hv, ha⟩ htr' fun p hp => ?_
      · rw [commits_concat, h₁, hc]; rfl
      · rw [returns_concat, h₃, List.nil_append] at hp
        rw [← ho]
        exact hr p (Option.mem_toList.mp hp)

theorem step (ht : s.Takes e r) (he : e.flight? = some n) (hs : e.starts? = some n → us = [])
    (hl : Life n us (s.flight? n)) : Life n (us ++ [⟨s, e, r⟩]) (r.session.flight? n) := by
  cases ht with
  | skip hn _ =>
      obtain rfl := Option.some.inj he
      obtain rfl := hs rfl
      rw [hn]
      refine .idle rfl rfl fun p hp => ?_
      obtain rfl := List.mem_singleton.mp hp
      rintro ⟨output, h⟩
      cases h
  | launch hn _ =>
      obtain rfl := Option.some.inj he
      obtain rfl := hs rfl
      rw [Session.flight?_fly_self]
      exact .generating rfl rfl rfl rfl
  | fail hn =>
      obtain rfl := Option.some.inj he
      rw [hn] at hl
      rw [Session.flight?_land_self]
      refine hl.leave rfl rfl fun p hp => ?_
      obtain rfl := Option.some.inj hp
      rintro ⟨output, h⟩
      cases h
  | pass hn hw =>
      obtain rfl := Option.some.inj he
      rw [hn] at hl
      rw [Session.flight?_land_self]
      refine hl.leave (by simp [Turn.commit?, Turn.change?, Turn.log]) rfl fun p hp => ?_
      obtain rfl := Option.some.inj hp
      rintro ⟨output, h⟩
      cases h
  | @settle m code id artifact hn hw hq =>
      obtain rfl := Option.some.inj he
      rw [hn] at hl
      rw [Session.flight?_land_self]
      cases hl with
      | generating hf h₁ h₂ h₃ =>
          refine .settled (c := ⟨m, code, id, artifact⟩) (file?_concat _ hf) ?_ ?_ ?_
          · rw [commits_concat, h₁, Turn.commit?_of_change? hn rfl]; rfl
          · rw [calls_concat, h₂]; rfl
          · intro p hp
            rw [returns_concat, h₃] at hp
            obtain rfl := List.mem_singleton.mp hp
            rfl
  | @notify m code id artifact server hn hw hm hv =>
      obtain rfl := Option.some.inj he
      rw [hn] at hl
      rw [Session.flight?_fly_self]
      cases hl with
      | generating hf h₁ h₂ h₃ =>
          refine .notifying (c := ⟨m, code, id, artifact⟩) (file?_concat _ hf) ?_
            ⟨_, List.mem_append_right _ List.mem_cons_self, Turn.commit?_of_change? hn rfl,
              ⟨_, rfl, hm⟩, hv⟩ rfl rfl ?_ ?_
          · rw [commits_concat, h₁, Turn.commit?_of_change? hn rfl]; rfl
          · rw [calls_concat, h₂]
            exact .lookup
          · rw [returns_concat, h₃]; rfl
  | @advance m notice next output reply hn ha =>
      obtain rfl := Option.some.inj he
      rw [hn] at hl
      rw [Session.flight?_fly_self]
      obtain ⟨htok, hsrv, -⟩ := Notice.answer_eq_next ha
      cases hl with
      | @notifying c _ _ hf h₁ hv ht ho htr h₃ =>
          obtain ⟨v, hv, hva⟩ := hv
          refine .notifying (c := c) (file?_concat _ hf) ?_
            ⟨v, List.mem_append_left _ hv, hsrv ▸ hva⟩ (htok.trans ht) ho ?_ ?_
          · rw [commits_concat, h₁]; rfl
          · have hadr : next.address = notice.address := by
              unfold Notice.address
              rw [htok]
            rw [calls_concat, hsrv, hadr]
            have := htr.advance ha
            rwa [hsrv] at this
          · rw [returns_concat, h₃]; rfl
  | @finish m notice output reply sent entry hn ha =>
      obtain rfl := Option.some.inj he
      rw [hn] at hl
      rw [Session.flight?_land_self]
      refine hl.part rfl rfl fun p hp => ?_
      obtain rfl := Option.some.inj hp
      rfl
  | poll hn =>
      obtain rfl := Option.some.inj he
      rw [hn] at hl
      rw [hn]
      exact hl.silent rfl rfl rfl
  | @drop m f hn =>
      obtain rfl := Option.some.inj he
      rw [hn] at hl
      rw [Session.flight?_land_self]
      cases f with
      | generating code id => exact hl.leave rfl rfl fun p hp => by cases hp
      | notifying notice output => exact hl.part rfl rfl fun p hp => by cases hp
  | load id => cases he
  | resolve id => cases he
  | attach server => cases he

/-- Wherever a transform stands, it has shown nothing but a failure or an empty result, or it has
made one commit, whose output it returns, and calls only if the commit announced a modification. -/
theorem outcome {f : Option (Flight S)} (hl : Life n us f) :
    (commits us = [] ∧ calls us = [] ∧
        ∀ p ∈ returns us, ¬ ∃ output, p.2 = .ok (some output)) ∨
      ∃ c : Commit, file? us = some (c.code, c.id) ∧ commits us = [c] ∧
        (∀ p ∈ returns us, p.2 = .ok (some (outputOf c.code c.id))) ∧
        (calls us = [] ∨ ∃ server stage, (∃ v ∈ us, v.Announces c server) ∧
          Trail server (Address.ofToken c.token) stage (calls us)) := by
  cases hl with
  | unstarted hu =>
      subst hu
      exact .inl ⟨rfl, rfl, fun p hp => by cases hp⟩
  | generating _ h₁ h₂ h₃ => exact .inl ⟨h₁, h₂, fun p hp => by rw [h₃] at hp; cases hp⟩
  | @notifying c notice _ hf h₁ hv ht _ htr h₃ =>
      refine .inr ⟨c, hf, h₁, fun p hp => ?_, .inr ⟨_, notice.stage, hv, ?_⟩⟩
      · rw [h₃] at hp
        cases hp
      · rw [← ht]
        exact htr
  | idle h₁ h₂ h₃ => exact .inl ⟨h₁, h₂, h₃⟩
  | settled hf h₁ h₂ h₃ => exact .inr ⟨_, hf, h₁, h₃, .inl h₂⟩
  | told hf h₁ hv htr h₃ => exact .inr ⟨_, hf, h₁, h₃, .inr ⟨_, _, hv, htr⟩⟩

end Life

namespace Session

variable {s s' : Session S}

theorem isCandidate_congr (h : s.filter = s'.filter) (id : String) :
    s.isCandidate id = s'.isCandidate id := by
  unfold isCandidate
  rw [h]

theorem Takes.generating_cases {e : Event S} {r : Stepped S} (ht : Takes s e r) {m : Nat}
    {code id : String} (hm : r.session.flight? m = some (.generating code id)) :
    s.flight? m = some (.generating code id) ∨ e = .start m code id ∧ s.isCandidate id = true := by
  by_cases he : e.flight? = some m
  · cases ht with
    | skip _ _ => exact .inl hm
    | launch _ hc =>
        cases he
        rw [flight?_fly_self] at hm
        cases hm
        exact .inr ⟨rfl, hc⟩
    | fail _ => cases he; simp at hm
    | pass _ _ => cases he; simp at hm
    | settle _ _ _ => cases he; simp at hm
    | notify _ _ _ _ => cases he; simp at hm
    | advance _ _ => cases he; simp at hm
    | finish _ _ => cases he; simp at hm
    | poll _ => exact .inl hm
    | drop _ => cases he; simp at hm
    | load id => exact .inl hm
    | resolve id => exact .inl hm
    | attach server => exact .inl hm
  · exact .inl (ht.flight?_of_ne he ▸ hm)

end Session

namespace Run

variable {filter : Filter} {h : History S} {s : Session S}

theorem filter_eq (run : Run filter h s) : s.filter = filter := by
  induction run with
  | fresh => rfl
  | turn _ hstep _ ih => rw [(Session.takes_of_step hstep).filter_eq, ih]

theorem file?_turnsOf_iff (run : Run filter h s) {n : Nat} {code id : String} :
    file? (turnsOf h n) = some (code, id) ↔ ∃ u ∈ h, u.event = .start n code id := by
  constructor
  · intro hf
    obtain ⟨u, hu, he⟩ := List.exists_of_findSome?_eq_some hf
    obtain ⟨hu, hn⟩ := List.mem_filter.mp hu
    refine ⟨u, hu, ?_⟩
    generalize u.event = e at hn he
    cases e with
    | start m code' id' =>
        obtain ⟨rfl, rfl⟩ := Prod.mk.inj (Option.some.inj he)
        obtain rfl := Option.some.inj (of_decide_eq_true hn)
        rfl
    | _ => cases he
  · rintro ⟨u, hu, he⟩
    induction run with
    | fresh => cases hu
    | @turn h s e r run hstep hnew ih =>
        rcases List.mem_append.mp hu with hu | hu
        · have hf := ih hu
          by_cases hn : e.flight? = some n
          · rw [turnsOf_concat_self h ⟨s, e, r⟩ hn]
            exact file?_concat _ hf
          · rw [turnsOf_concat_of_ne h ⟨s, e, r⟩ hn]
            exact hf
        · obtain rfl := List.mem_singleton.mp hu
          simp only at he
          subst he
          rw [turnsOf_concat_self h _ rfl, turnsOf_eq_nil_iff.mpr (hnew n rfl)]
          rfl

theorem isCandidate_of_generating (run : Run filter h s) {n : Nat} {code id : String}
    (hn : s.flight? n = some (.generating code id)) :
    (Session.fresh filter : Session S).isCandidate id = true := by
  induction run with
  | fresh => cases hn
  | turn run hstep _ ih =>
      rcases (Session.takes_of_step hstep).generating_cases hn with hn | ⟨-, hc⟩
      · exact ih hn
      · exact (Session.isCandidate_congr run.filter_eq.symm id).trans hc

/-- In every run, every transform has such a life. -/
theorem life (run : Run filter h s) (n : Nat) : Life n (turnsOf h n) (s.flight? n) := by
  induction run with
  | fresh => exact .unstarted rfl
  | @turn h s e r _ hstep hnew ih =>
      have ht := Session.takes_of_step hstep
      by_cases he : e.flight? = some n
      · rw [turnsOf_concat_self h ⟨s, e, r⟩ he]
        exact ih.step ht he fun hs => turnsOf_eq_nil_iff.mpr (hnew n hs)
      · rw [turnsOf_concat_of_ne h ⟨s, e, r⟩ he, ht.flight?_of_ne he]
        exact ih

theorem flight?_of_unused (run : Run filter h s) {n : Nat}
    (hn : ∀ u ∈ h, u.event.flight? ≠ some n) : s.flight? n = none := by
  have hl := run.life n
  rw [turnsOf_eq_nil_iff.mpr hn] at hl
  generalize s.flight? n = f at hl
  cases hl with
  | generating hf => cases hf
  | notifying hf => cases hf
  | _ => rfl

end Run
end ScopedStyles
