import ScopedStyles.Proofs.Session.Registered

/-! # Whose styles an import leads to

An output imports the address of its file's token, and a load of the address finds the last commit
under this token.  Until another file with the same token commits, that is the last commit of the
file itself, and the load yields a module that names the file, holds what the generator made for it
and watches it (`LoadedModule.stylesOf`).  Afterwards it yields the styles of the other file, and
goes on to do so until the file commits again (`ImportServes`).

Tokens keep four bytes of the digest, so there are files that share one
(`displaced_by_shared_token`). -/

namespace ScopedStyles

open History

variable {S : Type}

/-! ### The module of a file -/

/-- The module that names a file, holds its stylesheet and watches it. -/
def LoadedModule.stylesOf (id : String) (artifact : Option String) : LoadedModule :=
  ⟨"\n/* miniwind " ++ id ++ " */\n" ++ artifact.getD "", [id]⟩

theorem LoadedModule.ofEntry_eq (e : Entry) : ofEntry e = stylesOf e.source e.artifact := by
  unfold ofEntry stylesOf header
  rw [LoadedModule.mk.injEq]
  refine ⟨String.toList_inj.mp ?_, rfl⟩
  rw [String.toList_ofList]
  simp only [String.toList_append]

/-! ### The last commit of a file -/

/-- `c` is the last commit of the file `id`, and `later` are the commits after it. -/
def LastCommit (cs : List Commit) (id : String) (c : Commit) (later : List Commit) : Prop :=
  ∃ earlier, cs = earlier ++ c :: later ∧ c.id = id ∧ ∀ d ∈ later, d.id ≠ id

theorem exists_lastCommit {id : String} : ∀ {cs : List Commit}, (∃ c ∈ cs, c.id = id) →
    ∃ c later, LastCommit cs id c later
  | [], h => by simp at h
  | c :: cs, h => by
      by_cases hcs : ∃ d ∈ cs, d.id = id
      · obtain ⟨d, later, earlier, rfl, hd, hlater⟩ := exists_lastCommit hcs
        exact ⟨d, later, c :: earlier, rfl, hd, hlater⟩
      · obtain ⟨d, hd, hid⟩ := h
        rcases List.mem_cons.mp hd with rfl | hd
        · exact ⟨d, cs, [], rfl, hid, fun e he hei => hcs ⟨e, he, hei⟩⟩
        · exact absurd ⟨d, hd, hid⟩ hcs

/-- The token of a file has the entry of the last commit under it: that of the file, or of another
file after it. -/
theorem Registry.get?_replay_lastCommit {r : Registry} {cs : List Commit} {id : String}
    {c : Commit} {later : List Commit} (h : LastCommit cs id c later) :
    (r.replay cs).get? (.ofIdentity id) =
      ((later.filter fun d => d.token = .ofIdentity id).getLast?.map Commit.entry).or
        (some ⟨id, c.artifact⟩) := by
  obtain ⟨earlier, rfl, rfl, -⟩ := h
  rw [replay_append, replay_cons, get?_replay]
  congr 1
  exact get?_put_self _ _ _

/-! ### The main statement -/

/-- What a load of the address of a file's token yields after the turns `h`. -/
structure ImportServes (h : History S) (s : Session S) (id : String) : Prop where
  /-- The file has committed. -/
  committed : ∃ c later, LastCommit (commits h) id c later
  /-- The load yields the styles of the file's last commit exactly if no other file with the same
  token has committed after it. -/
  own_iff : ∀ c later, LastCommit (commits h) id c later →
    (s.registry.load (Address.ofToken (.ofIdentity id)) = some (.stylesOf id c.artifact) ↔
      ∀ d ∈ later, d.token ≠ .ofIdentity id)
  /-- Otherwise it yields the styles of the last of these files. -/
  other : ∀ c later, LastCommit (commits h) id c later →
    ∀ d, (later.filter fun d => d.token = .ofIdentity id).getLast? = some d →
      d.id ≠ id ∧ s.registry.load (Address.ofToken (.ofIdentity id)) =
        some (.stylesOf d.id d.artifact)

namespace Run

variable {filter : Filter} {h : History S} {s : Session S}

theorem load_lastCommit (run : Run filter h s) {id : String} {c : Commit} {later : List Commit}
    (hc : LastCommit (commits h) id c later) :
    s.registry.load (Address.ofToken (.ofIdentity id)) =
      match (later.filter fun d => d.token = .ofIdentity id).getLast? with
      | some d => some (.stylesOf d.id d.artifact)
      | none => some (.stylesOf id c.artifact) := by
  rw [Registry.load_ofToken, run.registry_eq, Registry.get?_replay_lastCommit hc]
  cases (later.filter fun d => d.token = .ofIdentity id).getLast? with
  | some d => exact congrArg some (LoadedModule.ofEntry_eq _)
  | none => exact congrArg some (LoadedModule.ofEntry_eq _)

theorem importServes (run : Run filter h s) {id : String} (hid : ∃ c ∈ commits h, c.id = id) :
    ImportServes h s id where
  committed := exists_lastCommit hid
  own_iff c later hc := by
    rw [run.load_lastCommit hc]
    cases hl : (later.filter fun d => d.token = .ofIdentity id).getLast? with
    | none =>
        rw [List.getLast?_eq_none_iff, List.filter_eq_nil_iff] at hl
        refine ⟨fun _ d hd ht => hl d hd (by simpa using ht), fun _ => rfl⟩
    | some d =>
        obtain ⟨hd, ht⟩ := List.mem_filter.mp (List.mem_of_getLast? hl)
        obtain ⟨-, -, -, hlater⟩ := hc
        constructor
        · intro he
          -- The module watches the file that committed last, and that is not the file itself.
          have hw : [d.id] = [id] := congrArg LoadedModule.watchFiles (Option.some.inj he)
          exact absurd (List.cons.inj hw).1 (hlater d hd)
        · exact fun hno => absurd (of_decide_eq_true ht) (hno d hd)
  other c later hc d hd := by
    have hmem := (List.mem_filter.mp (List.mem_of_getLast? hd)).1
    have hload := run.load_lastCommit hc
    rw [hd] at hload
    obtain ⟨-, -, -, hlater⟩ := hc
    exact ⟨hlater d hmem, hload⟩

/-- **Whose styles an import leads to.** -/
theorem ownStyles (run : Run filter h s) {n : Nat} {code id : String} {out : Output}
    (hs : ∃ u ∈ h, u.event = .start n code id) (hr : (n, .ok (some out)) ∈ returns h) :
    (∃ rest, out.code = "import \"" ++ Address.ofToken (.ofIdentity id) ++ "\";" ++ rest) ∧
      ∀ (h' : History S) (s' : Session S), Run filter h' s' → h <+: h' →
        ImportServes h' s' id := by
  obtain ⟨artifact, hcs, rfl⟩ := run.commit_of_output hs hr
  refine ⟨⟨_, rfl⟩, fun h' s' run' hh => run'.importServes ?_⟩
  have hmem : (⟨n, code, id, artifact⟩ : Commit) ∈ commits (turnsOf h n) := by
    rw [hcs]
    exact List.mem_singleton_self _
  have hmem' : (⟨n, code, id, artifact⟩ : Commit) ∈ commits h' :=
    (hh.filterMap _).subset (mem_commits_turnsOf.mp hmem).1
  exact ⟨_, hmem', rfl⟩

end Run

/-- Two files with tokens of their own, the first transformed twice: its import leads to what was
made for it last. -/
theorem ownStyles_two_files :
    ∃ (h : History String) (s : Session String), Run .all h s ∧
      (∃ u ∈ h, u.event = .start 0 "" "/src/a.ts") ∧
      (0, .ok (some (outputOf "" "/src/a.ts"))) ∈ returns h ∧
      commits h = [⟨0, "", "/src/a.ts", some "x"⟩, ⟨2, "", "/src/a.ts", some "z"⟩,
        ⟨1, "", "/src/b.ts", some "y"⟩] ∧
      s.registry.load (Address.ofToken (.ofIdentity "/src/a.ts")) =
        some ⟨"\n/* miniwind /src/a.ts */\nz", ["/src/a.ts"]⟩ := by
  obtain ⟨h, s, run, hp⟩ := exists_run_of_follow? .all
    [.start 0 "" "/src/a.ts", .start 1 "" "/src/b.ts", .generated 0 (.ok (some "x")),
      .start 2 "" "/src/a.ts", .generated 2 (.ok (some "z")), .generated 1 (.ok (some "y")),
      .attach "v"]
    (fun q => file? (turnsOf q.1 0) = some ("", "/src/a.ts") ∧
      (0, .ok (some (outputOf "" "/src/a.ts"))) ∈ returns q.1 ∧
      commits q.1 = [⟨0, "", "/src/a.ts", some "x"⟩, ⟨2, "", "/src/a.ts", some "z"⟩,
        ⟨1, "", "/src/b.ts", some "y"⟩])
    (by decide +kernel)
  obtain ⟨hf, hr, hc⟩ := of_decide_eq_true hp
  have hs := run.file?_turnsOf_iff.mp hf
  refine ⟨h, s, run, hs, hr, hc, ?_⟩
  have hown := (run.ownStyles hs hr).2 h s run (List.prefix_refl h)
  have hlast : LastCommit (commits h) "/src/a.ts" ⟨2, "", "/src/a.ts", some "z"⟩
      [⟨1, "", "/src/b.ts", some "y"⟩] := by
    rw [hc]
    exact ⟨[⟨0, "", "/src/a.ts", some "x"⟩], rfl, rfl, by decide⟩
  exact (hown.own_iff _ _ hlast).mpr (by decide +kernel)

/-- Two files that share a token: once the second has committed, the import of the first leads to
the styles of the second. -/
theorem displaced_by_shared_token :
    ∃ (h : History String) (s : Session String), Run .all h s ∧
      (∃ u ∈ h, u.event = .start 0 "" "/c/79296.ts") ∧
      (0, .ok (some (outputOf "" "/c/79296.ts"))) ∈ returns h ∧
      LastCommit (commits h) "/c/79296.ts" ⟨0, "", "/c/79296.ts", some "x"⟩
        [⟨1, "", "/c/10779.ts", some "y"⟩] ∧
      s.registry.load (Address.ofToken (.ofIdentity "/c/79296.ts")) =
        some ⟨"\n/* miniwind /c/10779.ts */\ny", ["/c/10779.ts"]⟩ := by
  obtain ⟨h, s, run, hp⟩ := exists_run_of_follow? .all
    [.start 0 "" "/c/79296.ts", .start 1 "" "/c/10779.ts", .generated 0 (.ok (some "x")),
      .generated 1 (.ok (some "y")), .attach "v"]
    (fun q => file? (turnsOf q.1 0) = some ("", "/c/79296.ts") ∧
      (0, .ok (some (outputOf "" "/c/79296.ts"))) ∈ returns q.1 ∧
      commits q.1 = [⟨0, "", "/c/79296.ts", some "x"⟩, ⟨1, "", "/c/10779.ts", some "y"⟩] ∧
      q.2.registry.load (Address.ofToken (.ofIdentity "/c/79296.ts")) =
        some ⟨"\n/* miniwind /c/10779.ts */\ny", ["/c/10779.ts"]⟩)
    (by decide +kernel)
  obtain ⟨hf, hr, hc, hload⟩ := of_decide_eq_true hp
  refine ⟨h, s, run, run.file?_turnsOf_iff.mp hf, hr, ?_, hload⟩
  rw [hc]
  exact ⟨[], rfl, rfl, by decide⟩

end ScopedStyles
