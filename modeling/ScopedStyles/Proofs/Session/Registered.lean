import ScopedStyles.Proofs.Session.Restriction

/-! # Entries, and the imports that point to them

Every entry of a session's registry stands under the token of the file that it names, and that file
is a candidate (`Registry.Sound`): a write puts the token and the file in together, and only
candidates get as far as a write.  Keys are never removed (`Run.tokens_subset`).

So a transform that returns an output leaves no dangling import behind.  Its output imports the
address of its file's token, the entry was written before the output was returned, and from then on
a load of the address finds an entry (`WellRegistered`).  Another file with the same token may have
overwritten the entry; then that file is watched instead. -/

namespace ScopedStyles

open History

variable {S : Type}

/-! ### Candidates -/

theorem Session.isCandidate_iff {s : Session S} {id : String} :
    s.isCandidate id = true ↔
      ¬ Address.ending.toList <:+ id.toList ∧ s.filter.accepts id = true := by
  unfold isCandidate
  rw [Bool.and_eq_true, Bool.not_eq_true', ← List.isSuffixOf_iff_suffix, Bool.not_eq_true]
  rfl

theorem Address.token?_eq_none {id : String} (h : ¬ ending.toList <:+ id.toList) :
    token? id = none := by
  cases ht : token? id with
  | none => rfl
  | some t =>
      refine absurd ?_ h
      rw [token?_eq_some_iff.mp ht, toList_ofToken, ← List.append_assoc]
      exact List.suffix_append _ _

/-! ### The invariant -/

/-- Every entry stands under the token of the file that it names, and the file is a candidate. -/
structure Registry.Sound (filter : Filter) (r : Registry) : Prop where
  token_eq : ∀ t e, r.get? t = some e → t = .ofIdentity e.source
  accepted : ∀ t e, r.get? t = some e → filter.accepts e.source = true
  ending : ∀ t e, r.get? t = some e → ¬ Address.ending.toList <:+ e.source.toList

theorem Registry.sound_empty (filter : Filter) : Sound filter empty := by
  constructor <;> intro t e he <;> cases he

theorem Registry.Sound.put {filter : Filter} {r : Registry} (h : Sound filter r) {c : Commit}
    (hc : (Session.fresh filter : Session S).isCandidate c.id = true) :
    Sound filter (r.put c.token c.entry).1 := by
  obtain ⟨hend, hacc⟩ := Session.isCandidate_iff.mp hc
  have entry {t : Token} {e : Entry} (he : (r.put c.token c.entry).1.get? t = some e) :
      (t = c.token ∧ e = c.entry) ∨ r.get? t = some e := by
    rw [get?_put] at he
    split at he
    · rename_i ht
      exact .inl ⟨ht, (Option.some.inj he).symm⟩
    · exact .inr he
  constructor
  · intro t e he
    rcases entry he with ⟨rfl, rfl⟩ | he
    · rfl
    · exact h.token_eq t e he
  · intro t e he
    rcases entry he with ⟨rfl, rfl⟩ | he
    · exact hacc
    · exact h.accepted t e he
  · intro t e he
    rcases entry he with ⟨rfl, rfl⟩ | he
    · exact hend
    · exact h.ending t e he

namespace Run

variable {filter : Filter} {h h' : History S} {s s' : Session S}

theorem sound (run : Run filter h s) : s.registry.Sound filter := by
  induction run with
  | fresh => exact Registry.sound_empty filter
  | turn run hstep _ ih =>
      rcases (Session.takes_of_step hstep).write_or_keep with ⟨c, -, -, hg, -, -, hr⟩ | ⟨-, -, hr⟩
      · rw [hr]
        exact ih.put (S := S) (run.isCandidate_of_generating hg)
      · rwa [hr]

theorem tokens_subset (run : Run filter h s) (run' : Run filter h' s') (hh : h <+: h') :
    s.registry.tokens ⊆ s'.registry.tokens := by
  induction run' with
  | fresh =>
      obtain rfl := List.prefix_nil.mp hh
      obtain ⟨-, rfl⟩ := run.eq_of_events .fresh rfl
      exact List.Subset.refl _
  | turn run' hstep hnew ih =>
      rcases List.prefix_concat_iff.mp hh with rfl | hh
      · obtain ⟨-, rfl⟩ := run.eq_of_events (run'.turn hstep hnew) rfl
        exact List.Subset.refl _
      · refine List.Subset.trans (ih hh) ?_
        rcases (Session.takes_of_step hstep).write_or_keep with ⟨c, -, -, -, -, -, hr⟩ | ⟨-, -, hr⟩
        · rw [hr]
          exact Registry.tokens_subset_put _ _ _
        · rw [hr]
          exact List.Subset.refl _

theorem token_mem_of_commit (run : Run filter h s) {c : Commit} (hc : c ∈ commits h) :
    c.token ∈ s.registry.tokens := by
  have hmem : c ∈ (commits h).filter fun d => d.token = c.token :=
    List.mem_filter.mpr ⟨hc, by simp⟩
  refine Registry.mem_tokens.mpr ?_
  rw [run.registry_eq, Registry.get?_replay,
    List.getLast?_eq_some_getLast (List.ne_nil_of_mem hmem)]
  exact ⟨_, rfl⟩

/-- A transform that returns an output wrote the stylesheet of its file, and returns the output
that belongs to it. -/
theorem commit_of_output (run : Run filter h s) {n : Nat} {code id : String} {out : Output}
    (hs : ∃ u ∈ h, u.event = .start n code id) (hr : (n, .ok (some out)) ∈ returns h) :
    ∃ artifact, commits (turnsOf h n) = [⟨n, code, id, artifact⟩] ∧ out = outputOf code id := by
  have hr' : (n, .ok (some out)) ∈ returns (turnsOf h n) := mem_returns_turnsOf.mpr ⟨hr, rfl⟩
  have hfile := run.file?_turnsOf_iff.mpr hs
  rcases (run.life n).outcome with ⟨-, -, hno⟩ | ⟨c, hc, hcs, hout, -⟩
  · exact absurd ⟨out, rfl⟩ (hno _ hr')
  · obtain ⟨rfl, rfl⟩ := Prod.mk.inj (Option.some.inj (hfile.symm.trans hc))
    have hmem : c ∈ commits (turnsOf h n) := by
      rw [hcs]
      exact List.mem_singleton_self c
    have hn : c.flight = n := (mem_commits_turnsOf.mp hmem).2
    have hres : (.ok (some out) : Returned) = .ok (some (outputOf c.code c.id)) := hout _ hr'
    refine ⟨c.artifact, ?_, ?_⟩
    · rw [hcs, ← hn]
    · exact Option.some.inj (Except.ok.inj hres)

end Run

theorem LoadedModule.code_ofEntry_ne (e : Entry) : (ofEntry e).code ≠ "" := by
  intro h
  have hl := congrArg String.toList h
  unfold ofEntry header at hl
  rw [String.toList_ofList, List.append_assoc, List.append_assoc] at hl
  exact absurd (List.append_eq_nil_iff.mp hl).1 (by decide)

/-- In a sound registry the address of a key loads the styles of a file with this token. -/
theorem Registry.Sound.load_of_mem {filter : Filter} {r : Registry} (h : Sound filter r)
    {t : Token} (ht : t ∈ r.tokens) : ∃ m file, r.load (Address.ofToken t) = some m ∧
      m.code ≠ "" ∧ m.watchFiles = [file] ∧ Token.ofIdentity file = t := by
  obtain ⟨e, he⟩ := mem_tokens.mp ht
  have hload : r.load (Address.ofToken t) = some (LoadedModule.ofEntry e) := by
    rw [load_ofToken, he, Option.elim_some]
  have htoken : Token.ofIdentity e.source = t := (h.token_eq t e he).symm
  exact ⟨_, e.source, hload, LoadedModule.code_ofEntry_ne e, rfl, htoken⟩

/-! ### The main statement -/

/-- The registry of a run is in order, and no import dangles. -/
structure WellRegistered (filter : Filter) (h : History S) (s : Session S) : Prop where
  /-- A key is the token of the file that its entry names.  The file is accepted by the filter and
  has not the ending of a stylesheet, so its id is no address of a token. -/
  entries : ∀ t e, s.registry.get? t = some e → t = .ofIdentity e.source ∧
    filter.accepts e.source = true ∧ ¬ Address.ending.toList <:+ e.source.toList ∧
    Address.token? e.source = none
  /-- The keys are the tokens with an entry, and are written with eight lowercase hexadecimal
  digits. -/
  keys : ∀ t, (t ∈ s.registry.tokens ↔ ∃ e, s.registry.get? t = some e) ∧ t.text.length = 8 ∧
    ∀ c ∈ t.text.toList, c ∈ "0123456789abcdef".toList
  /-- However the run goes on, its keys stay. -/
  kept : ∀ (h' : History S) (s' : Session S), Run filter h' s' → h <+: h' →
    s.registry.tokens ⊆ s'.registry.tokens
  /-- An output that was returned begins with the import of the address of its file's token.  Now
  and however the run goes on, a load of the address yields a module that is not empty, with one
  file to watch, which has the same token. -/
  imports : ∀ n code id out, (∃ u ∈ h, u.event = .start n code id) →
    (n, .ok (some out)) ∈ returns h → ∃ address rest,
      out.code = "import \"" ++ address ++ "\";" ++ rest ∧
      Address.resolve address = some address ∧
      Address.token? address = some (.ofIdentity id) ∧
      ∀ (h' : History S) (s' : Session S), Run filter h' s' → h <+: h' →
        ∃ m file, s'.registry.load address = some m ∧ m.code ≠ "" ∧ m.watchFiles = [file] ∧
          Token.ofIdentity file = .ofIdentity id

/-- **No import dangles.** -/
theorem Run.wellRegistered {filter : Filter} {h : History S} {s : Session S}
    (run : Run filter h s) : WellRegistered filter h s where
  entries t e he := by
    have hend := run.sound.ending t e he
    exact ⟨run.sound.token_eq t e he, run.sound.accepted t e he, hend,
      Address.token?_eq_none hend⟩
  keys t := by
    refine ⟨Registry.mem_tokens, ?_, fun c hc => ?_⟩
    · unfold Token.text
      rw [String.length_ofList]
      exact t.length_digits
    · unfold Token.text at hc
      rw [String.toList_ofList] at hc
      exact Token.mem_digits hc
  kept _ _ run' hh := run.tokens_subset run' hh
  imports n code id out hs hr := by
    obtain ⟨artifact, hcs, rfl⟩ := run.commit_of_output hs hr
    refine ⟨Address.ofToken (.ofIdentity id), ScopeImport.exchange code (.ofIdentity id), rfl, ?_,
      Address.token?_ofToken _, fun h' s' run' hh => ?_⟩
    · unfold Address.resolve
      rw [Address.isVirtual_ofToken, if_pos rfl]
    · have hmem : (⟨n, code, id, artifact⟩ : Commit) ∈ commits (turnsOf h n) := by
        rw [hcs]
        exact List.mem_singleton_self _
      have hkey := run.token_mem_of_commit (mem_commits_turnsOf.mp hmem).1
      exact run'.sound.load_of_mem (run.tokens_subset run' hh hkey)

/-- Two files that share a token: the first one's import leads to the styles of the second. -/
theorem wellRegistered_shared_token :
    ∃ (h : History String) (s : Session String), Run .all h s ∧
      returns h = [(0, .ok (some (outputOf "" "/c/79296.ts"))),
        (1, .ok (some (outputOf "" "/c/10779.ts")))] ∧
      s.registry.get? (.ofIdentity "/c/79296.ts") = some ⟨"/c/10779.ts", some "y"⟩ ∧
      WellRegistered .all h s := by
  obtain ⟨h, s, run, hp⟩ := exists_run_of_follow? .all
    [.start 0 "" "/c/79296.ts", .start 1 "" "/c/10779.ts", .generated 0 (.ok (some "x")),
      .generated 1 (.ok (some "y")), .attach "v"]
    (fun q => returns q.1 = [(0, .ok (some (outputOf "" "/c/79296.ts"))),
        (1, .ok (some (outputOf "" "/c/10779.ts")))] ∧
      q.2.registry.get? (.ofIdentity "/c/79296.ts") = some ⟨"/c/10779.ts", some "y"⟩)
    (by decide +kernel)
  obtain ⟨h₁, h₂⟩ := of_decide_eq_true hp
  exact ⟨h, s, run, h₁, h₂, run.wellRegistered⟩

end ScopedStyles
