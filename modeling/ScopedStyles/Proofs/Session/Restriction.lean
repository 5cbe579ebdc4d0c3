import Mathlib.Data.List.Forall2
import ScopedStyles.Proofs.Session.Commits

/-! # Runs without some of their transforms

`History.only h keep` has the turns of the host and those of the transforms in `keep`.  All files
share one registry, one filter and one server, but a transform changes nothing except where it
stands and the entry of its own token.  So if the others write no entry under the tokens in `T`, and
the kept ones are about tokens in `T`, the others can be left out: the remaining events make up a
run (`Run.exists_only`), and each of its turns is `Turn.Alike` to the turn that it was before.

The two sessions `Agree` at every point: they have the same filter and server, the same entries
under the tokens in `T`, and the kept transforms stand where they stood.  A turn that is left out
keeps them so (`Session.Agree.leave`), and an event that remains is taken by both
(`Session.Agree.step`).  A run is determined by its events (`Run.eq_of_events`), so there is only
one run without the others. -/

namespace ScopedStyles

open History

variable {S : Type}

/-! ### What remains -/

/-- The turns of the host, and those of the kept transforms. -/
def History.only (h : History S) (keep : Nat → Bool) : History S :=
  h.filter fun u => u.event.flight?.all keep

def History.events (h : History S) : List (Event S) := h.map (·.event)

section only
variable (h : History S) {u : Turn S} {keep : Nat → Bool}

theorem History.only_concat_of_kept (hu : u.event.flight?.all keep = true) :
    only (h ++ [u]) keep = only h keep ++ [u] := by
  simp [only, hu]

theorem History.only_concat_of_left {n : Nat} (hu : u.event.flight? = some n)
    (hn : keep n = false) : only (h ++ [u]) keep = only h keep := by
  simp [only, hu, hn]

theorem History.events_concat (u : Turn S) : events (h ++ [u]) = events h ++ [u.event] := by
  simp [events]

theorem History.mem_of_mem_only {h : History S} {u : Turn S} (hu : u ∈ h.only keep) : u ∈ h :=
  (List.mem_filter.mp hu).1

end only

/-- A run is determined by its events. -/
theorem Run.eq_of_events {filter : Filter} {h h' : History S} {s s' : Session S}
    (run : Run filter h s) (run' : Run filter h' s') (he : events h = events h') :
    h = h' ∧ s = s' := by
  induction run generalizing h' s' with
  | fresh =>
      cases run' with
      | fresh => exact ⟨rfl, rfl⟩
      | turn _ _ _ => simp [events] at he
  | turn _ hstep _ ih =>
      cases run' with
      | fresh => simp [events] at he
      | turn run' hstep' _ =>
          rw [events_concat, events_concat] at he
          obtain ⟨he, hlast⟩ := List.append_inj' he rfl
          obtain ⟨rfl, rfl⟩ := ih run' he
          obtain rfl := List.singleton_inj.mp hlast
          obtain rfl := Option.some.inj (hstep.symm.trans hstep')
          exact ⟨rfl, rfl⟩

/-- Whatever token `id` is the address of is in `T`. -/
def Address.Within (T : Token → Prop) (id : String) : Prop := ∀ t, id = Address.ofToken t → T t

/-- The turn `v` is the turn `u`, as far as the tokens in `T` are concerned: the same happens, the
same entries are there afterwards, loads yield the same, and the effects and the answer of the turn
are the same.  The addresses of other tokens are excepted. -/
structure Turn.Alike (T : Token → Prop) (u v : Turn S) : Prop where
  event_eq : v.event = u.event
  get?_eq : ∀ t, T t → v.after.session.registry.get? t = u.after.session.registry.get? t
  load_eq : ∀ id, Address.Within T id →
    v.after.session.registry.load id = u.after.session.registry.load id
  shown_eq : (∀ id, u.event = .load id → Address.Within T id) →
    v.after.effects = u.after.effects ∧ v.after.answer = u.after.answer

theorem History.events_eq_of_alike {T : Token → Prop} {h h' : History S}
    (ha : List.Forall₂ (Turn.Alike T) h h') : events h' = events h := by
  induction ha with
  | nil => rfl
  | cons hu _ ih => simp only [events, List.map_cons, hu.event_eq] at ih ⊢; rw [ih]

theorem History.calls_filter_congr {p q : Turn S → Bool} :
    ∀ {h : History S}, (∀ u ∈ h, u.calls ≠ [] → p u = q u) →
      calls (h.filter p) = calls (h.filter q)
  | [], _ => rfl
  | u :: h, hpq => by
      obtain ⟨hu, hpq⟩ := List.forall_mem_cons.mp hpq
      have ih := calls_filter_congr hpq
      unfold calls at ih ⊢
      by_cases hc : u.calls = []
      · cases hp : p u <;> cases hq : q u <;> simp [hp, hq, hc, ih]
      · have hpu := hu hc
        cases hq : q u <;> simp [hpu, hq, ih]

theorem History.calls_eq_of_alike {T : Token → Prop} {h h' : History S}
    (ha : List.Forall₂ (Turn.Alike T) h h')
    (ht : ∀ u ∈ h, u.before.Takes u.event u.after)
    (ht' : ∀ v ∈ h', v.before.Takes v.event v.after) : calls h' = calls h := by
  induction ha with
  | nil => rfl
  | @cons u v h h' huv _ ih =>
      obtain ⟨htu, ht⟩ := List.forall_mem_cons.mp ht
      obtain ⟨htv, ht'⟩ := List.forall_mem_cons.mp ht'
      have hc : v.calls = u.calls := by
        by_cases he : u.event.flight? = none
        · have he' : v.event.flight? = none := by rw [huv.event_eq, he]
          exact (htv.calls_eq_nil he').trans (htu.calls_eq_nil he).symm
        · have hshown := huv.shown_eq fun id hload => absurd (by rw [hload]; rfl) he
          unfold Turn.calls
          rw [hshown.1]
      have ih := ih ht ht'
      unfold calls at ih ⊢
      rw [List.flatMap_cons, List.flatMap_cons, hc, ih]

theorem History.returns_only (keep : Nat → Bool) : ∀ h : History S,
    returns (h.only keep) = (returns h).filter fun p => keep p.1
  | [] => rfl
  | u :: h => by
      have ih := returns_only keep h
      unfold returns only at ih ⊢
      cases hr : u.returned? with
      | none =>
          rw [List.filterMap_cons_none hr, ← ih, List.filter_cons]
          split
          · rw [List.filterMap_cons_none hr]
          · rfl
      | some p =>
          have hn := Turn.flight?_of_returned? hr
          rw [List.filterMap_cons_some hr, List.filter_cons, List.filter_cons, hn, ← ih,
            Option.all_some]
          split
          · rw [List.filterMap_cons_some hr]
          · rfl

/-! ### Sessions that agree -/

/-- The session `s'` is `s` for the kept transforms and the tokens in `T`. -/
structure Session.Agree (keep : Nat → Bool) (T : Token → Prop) (s s' : Session S) : Prop where
  filter_eq : s'.filter = s.filter
  notifier_eq : s'.notifier = s.notifier
  get?_eq : ∀ t, T t → s'.registry.get? t = s.registry.get? t
  flight?_eq : ∀ n, keep n = true → s'.flight? n = s.flight? n

namespace Session

variable {keep : Nat → Bool} {T : Token → Prop} {s s' : Session S} {e : Event S} {r : Stepped S}
  {n : Nat} {id : String} {artifact : Option String}

theorem Takes.notifier_eq (ht : Takes s e r) (hn : e.flight? = some n) :
    r.session.notifier = s.notifier := by
  cases ht with
  | load _ => cases hn
  | resolve _ => cases hn
  | attach _ => cases hn
  | _ => rfl

namespace Agree

theorem land (h : Agree keep T s s') (n : Nat) : Agree keep T (s.land n) (s'.land n) where
  filter_eq := h.filter_eq
  notifier_eq := h.notifier_eq
  get?_eq := h.get?_eq
  flight?_eq m hm := by rw [flight?_land, flight?_land, h.flight?_eq m hm]

theorem fly (h : Agree keep T s s') (n : Nat) (f : Flight S) :
    Agree keep T (s.fly n f) (s'.fly n f) where
  filter_eq := h.filter_eq
  notifier_eq := h.notifier_eq
  get?_eq := h.get?_eq
  flight?_eq m hm := by rw [flight?_fly, flight?_fly, h.flight?_eq m hm]

theorem stored (h : Agree keep T s s') (id : String) (artifact : Option String) :
    Agree keep T (s.stored id artifact) (s'.stored id artifact) where
  filter_eq := h.filter_eq
  notifier_eq := h.notifier_eq
  get?_eq t ht := by
    rw [registry_stored, registry_stored, Registry.get?_put, Registry.get?_put, h.get?_eq t ht]
  flight?_eq := h.flight?_eq

theorem isCandidate_eq (h : Agree keep T s s') (id : String) :
    s'.isCandidate id = s.isCandidate id :=
  isCandidate_congr h.filter_eq id

theorem changeBy_eq (h : Agree keep T s s') (ht : T (.ofIdentity id)) :
    s'.changeBy id artifact = s.changeBy id artifact :=
  Registry.change_congr (h.get?_eq _ ht) _

theorem load_eq (h : Agree keep T s s') (hid : Address.Within T id) :
    s'.registry.load id = s.registry.load id :=
  Registry.load_congr fun t ht => h.get?_eq t (hid t ht)

/-- A transform that is left out changes nothing for the others, unless it writes an entry. -/
theorem leave (h : Agree keep T s s') (ht : s.Takes e r) (hn : e.flight? = some n)
    (hk : keep n = false) (hc : ∀ c, Turn.commit? ⟨s, e, r⟩ = some c → ¬ T c.token) :
    Agree keep T r.session s' where
  filter_eq := by rw [h.filter_eq, ht.filter_eq]
  notifier_eq := by rw [h.notifier_eq, ht.notifier_eq hn]
  get?_eq t hT := by
    rw [h.get?_eq t hT]
    rcases ht.write_or_keep with ⟨c, hcu, -, -, -, -, hr⟩ | ⟨-, -, hr⟩
    · have hne : t ≠ c.token := fun heq => hc c hcu (heq ▸ hT)
      rw [hr, Registry.get?_put_of_ne _ _ hne]
    · rw [hr]
  flight?_eq m hm := by
    have hne : e.flight? ≠ some m := by
      rintro hem
      obtain rfl := Option.some.inj (hn.symm.trans hem)
      rw [hk] at hm
      cases hm
    rw [h.flight?_eq m hm, ht.flight?_of_ne hne]

/-- An event that remains leads on in both, in the same way. -/
theorem step (h : Agree keep T s s') (ht : s.Takes e r) (hk : e.flight?.all keep = true)
    (hT : ∀ n code id, keep n = true → s.flight? n = some (.generating code id) →
      T (.ofIdentity id)) :
    ∃ r', s'.Takes e r' ∧ Agree keep T r.session r'.session ∧
      Turn.Alike T ⟨s, e, r⟩ ⟨s', e, r'⟩ := by
  -- It is enough to find the step and to compare what it shows: the entries agree by themselves.
  suffices hstep : ∃ r', s'.Takes e r' ∧ Agree keep T r.session r'.session ∧
      ((∀ id, e = .load id → Address.Within T id) →
        r'.effects = r.effects ∧ r'.answer = r.answer) by
    obtain ⟨r', ht', ha, hshown⟩ := hstep
    exact ⟨r', ht', ha, rfl, ha.get?_eq, fun id => ha.load_eq, hshown⟩
  cases ht with
  | @skip n code id hn hc =>
      have hn' := (h.flight?_eq n hk).trans hn
      exact ⟨_, .skip hn' ((h.isCandidate_eq id).trans hc), h, fun _ => ⟨rfl, rfl⟩⟩
  | @launch n code id hn hc =>
      have hn' := (h.flight?_eq n hk).trans hn
      exact ⟨_, .launch hn' ((h.isCandidate_eq id).trans hc), h.fly n _, fun _ => ⟨rfl, rfl⟩⟩
  | @fail n code id source hn =>
      exact ⟨_, .fail ((h.flight?_eq n hk).trans hn), h.land n, fun _ => ⟨rfl, rfl⟩⟩
  | @pass n code id artifact hn hw =>
      exact ⟨_, .pass ((h.flight?_eq n hk).trans hn) hw, h.land n, fun _ => ⟨rfl, rfl⟩⟩
  | @settle n code id artifact hn hw hq =>
      have hch : s'.changeBy id artifact = s.changeBy id artifact :=
        h.changeBy_eq (hT n code id hk hn)
      have hq' : (s'.changeBy id artifact).isModified = false ∨ s'.notifier.server = none := by
        rwa [hch, h.notifier_eq]
      refine ⟨_, .settle ((h.flight?_eq n hk).trans hn) hw hq', (h.stored id artifact).land n,
        fun _ => ⟨?_, rfl⟩⟩
      simp only [reportOf, hch]
  | @notify n code id artifact server hn hw hm hv =>
      have hch : s'.changeBy id artifact = s.changeBy id artifact :=
        h.changeBy_eq (hT n code id hk hn)
      have hv' : s'.notifier.server = some server := by rw [h.notifier_eq, hv]
      refine ⟨_, .notify ((h.flight?_eq n hk).trans hn) hw (hch ▸ hm) hv',
        (h.stored id artifact).fly n _, fun _ => ⟨?_, rfl⟩⟩
      simp only [reportOf, hch]
  | @advance n notice next output reply hn ha =>
      exact ⟨_, .advance ((h.flight?_eq n hk).trans hn) ha, h.fly n _, fun _ => ⟨rfl, rfl⟩⟩
  | @finish n notice output reply sent entry hn ha =>
      exact ⟨_, .finish ((h.flight?_eq n hk).trans hn) ha, h.land n, fun _ => ⟨rfl, rfl⟩⟩
  | @poll n f hn =>
      exact ⟨_, .poll ((h.flight?_eq n hk).trans hn), h, fun _ => ⟨rfl, rfl⟩⟩
  | @drop n f hn =>
      exact ⟨_, .drop ((h.flight?_eq n hk).trans hn), h.land n, fun _ => ⟨rfl, rfl⟩⟩
  | load id =>
      refine ⟨_, .load id, h, fun hid => ?_⟩
      have hid := hid id rfl
      have hearly : s'.registry.isEarly id = s.registry.isEarly id :=
        Registry.isEarly_congr fun t ht => h.get?_eq t (hid t ht)
      exact ⟨by simp only [hearly], by simp only [h.load_eq hid]⟩
  | resolve id => exact ⟨_, .resolve id, h, fun _ => ⟨rfl, rfl⟩⟩
  | attach server =>
      refine ⟨_, .attach server, ⟨h.filter_eq, rfl, h.get?_eq, h.flight?_eq⟩, fun _ => ⟨?_, rfl⟩⟩
      simp only [h.notifier_eq, Notifier.attach]

end Agree
end Session

/-! ### Leaving out transforms -/

namespace Run

variable {filter : Filter} {h : History S} {s : Session S}

theorem started_of_generating (run : Run filter h s) {n : Nat} {code id : String}
    (hn : s.flight? n = some (.generating code id)) : ∃ u ∈ h, u.event = .start n code id := by
  have hl := run.life n
  rw [hn] at hl
  cases hl with
  | generating hf _ _ _ => exact run.file?_turnsOf_iff.mp hf

/-- The transforms that are not kept can be left out of a run, if they write no entry under the
tokens in `T` and the kept ones are about these. -/
theorem exists_only (run : Run filter h s) {keep : Nat → Bool} {T : Token → Prop}
    (hkept : ∀ u ∈ h, ∀ n code id, u.event = .start n code id → keep n = true →
      T (.ofIdentity id))
    (hleft : ∀ c ∈ commits h, keep c.flight = false → ¬ T c.token) :
    ∃ (h' : History S) (s' : Session S), Run filter h' s' ∧
      List.Forall₂ (Turn.Alike T) (h.only keep) h' ∧ Session.Agree keep T s s' := by
  induction run with
  | fresh => exact ⟨[], _, .fresh, .nil, ⟨rfl, rfl, fun _ _ => rfl, fun _ _ => rfl⟩⟩
  | @turn h s e r run hstep hnew ih =>
      have ht := Session.takes_of_step hstep
      rw [commits_concat] at hleft
      obtain ⟨h', s', run', halike, hagree⟩ :=
        ih (fun u hu => hkept u (List.mem_append_left _ hu))
          fun c hc => hleft c (List.mem_append_left _ hc)
      cases hk : e.flight?.all keep with
      | true =>
          have hT : ∀ n code id, keep n = true → s.flight? n = some (.generating code id) →
              T (.ofIdentity id) := by
            intro n code id hn hg
            obtain ⟨u, hu, he⟩ := run.started_of_generating hg
            exact hkept u (List.mem_append_left _ hu) n code id he hn
          obtain ⟨r', ht', hagree', hu⟩ := hagree.step ht hk hT
          refine ⟨h' ++ [⟨s', e, r'⟩], r'.session,
            run'.turn (Session.step_of_takes ht') fun n hn v hv => ?_, ?_, hagree'⟩
          · -- Every event of the restricted run is one of the run.
            have hmem : v.event ∈ events (h.only keep) := by
              rw [← events_eq_of_alike halike]
              exact List.mem_map_of_mem hv
            obtain ⟨w, hw, hwv⟩ := List.mem_map.mp hmem
            rw [← hwv]
            exact hnew n hn w (mem_of_mem_only hw)
          · rw [only_concat_of_kept h (u := ⟨s, e, r⟩) hk]
            exact List.rel_append halike (.cons hu .nil)
      | false =>
          obtain ⟨n, hn, hkn⟩ : ∃ n, e.flight? = some n ∧ keep n = false := by
            cases hn : e.flight? with
            | none => rw [hn] at hk; cases hk
            | some n => exact ⟨n, rfl, by rwa [hn] at hk⟩
          refine ⟨h', s', run', ?_, hagree.leave ht hn hkn fun c hc => ?_⟩
          · rw [only_concat_of_left h (u := ⟨s, e, r⟩) hn hkn]
            exact halike
          · have hcn : c.flight = n :=
              Option.some.inj ((Turn.flight?_of_commit? hc).symm.trans hn)
            refine hleft c (List.mem_append_right _ ?_) (hcn ▸ hkn)
            rw [hc]
            exact List.mem_singleton_self c

theorem alike_of_events (run : Run filter h s) {keep : Nat → Bool} {T : Token → Prop}
    (hkept : ∀ u ∈ h, ∀ n code id, u.event = .start n code id → keep n = true →
      T (.ofIdentity id))
    (hleft : ∀ c ∈ commits h, keep c.flight = false → ¬ T c.token)
    {h' : History S} {s' : Session S} (run' : Run filter h' s')
    (he : events h' = events (h.only keep)) :
    List.Forall₂ (Turn.Alike T) (h.only keep) h' ∧ Session.Agree keep T s s' := by
  obtain ⟨h'', s'', run'', halike, hagree⟩ := run.exists_only hkept hleft
  obtain ⟨rfl, rfl⟩ := run'.eq_of_events run'' (he.trans (events_eq_of_alike halike).symm)
  exact ⟨halike, hagree⟩

end Run
end ScopedStyles
