import ScopedStyles.Proofs.ScopeImport
import ScopedStyles.Proofs.Session.Registered

/-! # One token everywhere

A file's token goes four ways: into the selector that the generator nests the styles under, into the
key of the registry, into the address that the output imports, and into the inline module that
tells the code its class.  `Run.oneToken` says that a transform which returns an output has sent the
same token all four ways (`OneToken`): it asked the generator once, about the code as it came; it
wrote once, what the generator answered; and its output is the import, followed by the code with
nothing but its scope imports exchanged. -/

namespace ScopedStyles

open History

variable {S : Type}

/-! ### Requests to the generator -/

/-- The code, the id and the scope that the generator is asked about. -/
def Effect.request? : Effect S → Option (String × String × Option String)
  | .generate code id scope => some (code, id, scope)
  | _ => none

def Turn.requests (u : Turn S) : List (String × String × Option String) :=
  u.after.effects.filterMap Effect.request?

def History.requests (h : History S) : List (String × String × Option String) :=
  h.flatMap Turn.requests

namespace Session.Takes

variable {s : Session S} {e : Event S} {r : Stepped S}

theorem requests_eq_nil (ht : Takes s e r) (he : e.starts? = none) :
    Turn.requests ⟨s, e, r⟩ = [] := by
  cases ht with
  | skip _ _ => cases he
  | launch _ _ => cases he
  | load id =>
      by_cases h : s.registry.isEarly id <;> simp [Turn.requests, h, Effect.request?]
  | attach server =>
      by_cases h : s.notifier.isAttached <;>
        simp [Turn.requests, Notifier.attach, h, Effect.request?]
  | _ => rfl

theorem requests_of_start {n : Nat} {code id : String} (ht : Takes s (.start n code id) r)
    (hc : s.isCandidate id = true) :
    Turn.requests ⟨s, .start n code id, r⟩ = [(code, id, explicitScope code id)] := by
  cases ht with
  | skip _ hc' =>
      rw [hc] at hc'
      cases hc'
  | launch _ _ => rfl

end Session.Takes

namespace Run

variable {filter : Filter} {h : History S} {s : Session S}

/-- The first turn of a transform starts it, and no other does. -/
theorem turnsOf_eq_cons (run : Run filter h s) {u : Turn S} (hu : u ∈ h) {n : Nat}
    {code id : String} (he : u.event = .start n code id) :
    ∃ us, turnsOf h n = u :: us ∧ ∀ v ∈ us, v.event.starts? = none := by
  have hun : u.event.flight? = some n := by
    rw [he]
    rfl
  induction run with
  | fresh => cases hu
  | @turn h s e r run hstep hnew ih =>
      rcases List.mem_append.mp hu with hu | hu
      · obtain ⟨us, hus, hno⟩ := ih hu
        by_cases hn : e.flight? = some n
        · refine ⟨us ++ [⟨s, e, r⟩], ?_, fun v hv => ?_⟩
          · rw [turnsOf_concat_self h ⟨s, e, r⟩ hn, hus]
            rfl
          · rcases List.mem_append.mp hv with hv | hv
            · exact hno v hv
            · obtain rfl := List.mem_singleton.mp hv
              cases hs : e.starts? with
              | none => rfl
              | some m =>
                  -- Its number would be used twice.
                  have hm := (Session.takes_of_step hstep).flight?_of_starts? hs
                  obtain rfl : m = n := Option.some.inj (hm.2.symm.trans hn)
                  exact absurd hun (hnew m hs u hu)
        · rw [turnsOf_concat_of_ne h ⟨s, e, r⟩ hn]
          exact ⟨us, hus, hno⟩
      · obtain rfl := List.mem_singleton.mp hu
        simp only at he
        subst he
        rw [turnsOf_concat_self h _ hun, turnsOf_eq_nil_iff.mpr (hnew n rfl)]
        exact ⟨[], rfl, fun v hv => by cases hv⟩

theorem requests_of_start (run : Run filter h s) {n : Nat} {code id : String}
    (hs : ∃ u ∈ h, u.event = .start n code id)
    (hc : (Session.fresh filter : Session S).isCandidate id = true) :
    requests (turnsOf h n) = [(code, id, explicitScope code id)] := by
  obtain ⟨u, hu, he⟩ := hs
  obtain ⟨us, hus, hno⟩ := run.turnsOf_eq_cons hu he
  have hmem {v : Turn S} (hv : v ∈ u :: us) : v.before.Takes v.event v.after := by
    rw [← hus] at hv
    exact run.takes_of_mem (mem_turnsOf.mp hv).1
  have hfirst : u.requests = [(code, id, explicitScope code id)] := by
    have ht := hmem List.mem_cons_self
    obtain ⟨h₁, h₂, -, run₁, -⟩ := run.split hu
    obtain ⟨before, event, after⟩ := u
    simp only at he
    subst he
    exact ht.requests_of_start ((Session.isCandidate_congr run₁.filter_eq id).trans hc)
  have hrest : requests us = [] :=
    List.flatMap_eq_nil_iff.mpr fun v hv =>
      (hmem (List.mem_cons_of_mem _ hv)).requests_eq_nil (hno v hv)
  unfold requests at hrest ⊢
  rw [hus, List.flatMap_cons, hfirst, hrest, List.append_nil]

/-! ### The write -/

theorem isCandidate_of_commit (run : Run filter h s) {c : Commit} (hc : c ∈ commits h) :
    (Session.fresh filter : Session S).isCandidate c.id = true := by
  obtain ⟨u, hu, huc⟩ := mem_commits.mp hc
  obtain ⟨h₁, h₂, -, run₁, -⟩ := run.split hu
  obtain ⟨-, hg, -⟩ := (run.takes_of_mem hu).write_of_commit huc
  exact run₁.isCandidate_of_generating hg

/-- A transform that committed wrote in one turn what the generator answered, and left the registry
alone in all others. -/
theorem write_of_commits (run : Run filter h s) {n : Nat} {c : Commit}
    (hc : commits (turnsOf h n) = [c]) : ∃ us u vs, turnsOf h n = us ++ u :: vs ∧
      u.event = .generated n (.ok c.artifact) ∧
      u.after.session.registry = (u.before.registry.put c.token c.entry).1 ∧
      ∀ v ∈ us ++ vs, v.after.session.registry = v.before.registry := by
  obtain ⟨us, u, vs, hsplit, hus, hu, hvs⟩ := List.filterMap_eq_cons_iff.mp hc
  have takes {v : Turn S} (hv : v ∈ us ++ u :: vs) : v.before.Takes v.event v.after := by
    rw [← hsplit] at hv
    exact run.takes_of_mem (mem_turnsOf.mp hv).1
  obtain ⟨he, -, hr⟩ := (takes (List.mem_append_right _ List.mem_cons_self)).write_of_commit hu
  refine ⟨us, u, vs, hsplit, ?_, hr, fun v hv => ?_⟩
  · have hmem : c ∈ commits (turnsOf h n) := by
      rw [hc]
      exact List.mem_singleton_self c
    rw [he, (mem_commits_turnsOf.mp hmem).2]
  · rcases List.mem_append.mp hv with hv | hv
    · exact (takes (List.mem_append_left _ hv)).registry_eq_of_commit (hus v hv)
    · have hvs' := List.mem_append_right us (List.mem_cons_of_mem u hv)
      exact (takes hvs').registry_eq_of_commit (List.filterMap_eq_nil_iff.mp hvs v hv)

end Run

/-! ### The output -/

theorem code_outputOf (code id : String) : (outputOf code id).code =
    "import \"/@miniwind/" ++ (Token.ofIdentity id).text ++ ".css\";" ++
      ScopeImport.exchange code (.ofIdentity id) := by
  have hopen : "import \"" ++ Address.opening = "import \"/@miniwind/" := by decide
  have hclose : Address.ending ++ "\";" = ".css\";" := by decide
  show "import \"" ++ Address.ofToken _ ++ "\";" ++ _ = _
  rw [Address.ofToken_eq, ← hopen, ← hclose]
  simp only [String.append_assoc]

/-! ### The main statement -/

/-- The transform `n` of `code` under `id` returned `out`, and uses the token `t` everywhere. -/
structure OneToken (h : History S) (n : Nat) (code id : String) (out : Output) (t : Token) :
    Prop where
  /-- The generator was asked once, about the code as it came, with the token's class selector if
  the code imports its scope. -/
  asked : requests (turnsOf h n) =
    [(code, id, if ScopeImport.isPresent code then some ("." ++ t.text) else none)]
  /-- One turn wrote the generator's answer under the token; no other turn of the transform changed
  the registry. -/
  written : ∃ us u vs artifact, turnsOf h n = us ++ u :: vs ∧
    u.event = .generated n (.ok artifact) ∧
    u.after.session.registry = (u.before.registry.put t ⟨id, artifact⟩).1 ∧
    ∀ v ∈ us ++ vs, v.after.session.registry = v.before.registry
  /-- No source map. -/
  map : out.map = none
  /-- The output is the import of the token's address and the code.  Code without a scope import is
  unchanged; otherwise an address that carries the token's module stands in place of the specifier
  of every clause. -/
  code : ∃ body, out.code = "import \"/@miniwind/" ++ t.text ++ ".css\";" ++ body ∧
    (ScopeImport.isPresent code = false → body = code) ∧
    (ScopeImport.isPresent code = true → ∃ url,
      ScopeImport.Exchanged (" from '" ++ url ++ "'").toList code.toList body.toList ∧
      ScopeImport.Carries url t)

/-- **One token everywhere.** -/
theorem Run.oneToken {filter : Filter} {h : History S} {s : Session S} (run : Run filter h s)
    {n : Nat} {code id : String} {out : Output} (hs : ∃ u ∈ h, u.event = .start n code id)
    (hr : (n, .ok (some out)) ∈ returns h) : OneToken h n code id out (.ofIdentity id) := by
  obtain ⟨artifact, hcs, rfl⟩ := run.commit_of_output hs hr
  have hmem : (⟨n, code, id, artifact⟩ : Commit) ∈ commits (turnsOf h n) := by
    rw [hcs]
    exact List.mem_singleton_self _
  have hcand := run.isCandidate_of_commit (mem_commits_turnsOf.mp hmem).1
  refine ⟨?_, ?_, rfl, ScopeImport.exchange code (.ofIdentity id), ?_, fun hp => ?_, fun hp => ?_⟩
  · rw [run.requests_of_start hs hcand, ← Token.selector_eq]
    rfl
  · obtain ⟨us, u, vs, hsplit, he, hput, hkeep⟩ := run.write_of_commits hcs
    exact ⟨us, u, vs, artifact, hsplit, he, hput, hkeep⟩
  · exact code_outputOf code id
  · exact ScopeImport.exchange_of_absent hp _
  · refine ⟨ScopeImport.moduleUrl (.ofIdentity id), ?_, ScopeImport.carries_moduleUrl _⟩
    have hx := ScopeImport.exchanged_exchange hp (.ofIdentity id)
    rwa [ScopeImport.inlineClause_eq] at hx

/-- A file whose name has quotes, a backslash, a line break and a letter beyond ASCII, and whose code
imports its scope in both kinds of quotes. -/
theorem oneToken_odd_name :
    ∃ (h : History String) (s : Session String) (code id : String) (out : Output),
      code = "a from '@miniwind/scope'; b from \"@miniwind/scope\"" ∧
      id = "/'\"\\\n\u00e9.ts" ∧ Run .all h s ∧
      (∃ u ∈ h, u.event = .start 0 code id) ∧ (0, .ok (some out)) ∈ returns h ∧
      ScopeImport.isPresent code = true ∧ OneToken h 0 code id out (.ofIdentity id) := by
  obtain ⟨h, s, run, hp⟩ := exists_run_of_follow? .all
    [.attach "v",
      .start 0 "a from '@miniwind/scope'; b from \"@miniwind/scope\"" "/'\"\\\n\u00e9.ts",
      .generated 0 (.ok none), .replied 0 (.found none)]
    (fun q => (file? (turnsOf q.1 0)).any fun (code, id) =>
      code = "a from '@miniwind/scope'; b from \"@miniwind/scope\"" ∧ id = "/'\"\\\n\u00e9.ts" ∧
      (0, .ok (some (outputOf code id))) ∈ returns q.1 ∧ ScopeImport.isPresent code = true)
    (by decide +kernel)
  obtain ⟨⟨code, id⟩, hf, hp⟩ := (Option.any_eq_true _ _).mp hp
  obtain ⟨hcode, hid, hr, hpresent⟩ := of_decide_eq_true hp
  have hs := run.file?_turnsOf_iff.mp hf
  exact ⟨h, s, code, id, _, hcode, hid, run, hs, hr, hpresent, run.oneToken hs hr⟩

end ScopedStyles
