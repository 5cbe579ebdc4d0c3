import ScopedStyles.Proofs.Session.Life
import ScopedStyles.Proofs.Writes

/-! # The registry as a record of commits

However transforms overlap, a run writes to the registry at its commits only, each in one piece.  So
the registry of a run is the `replay` of its commits in their order (`Run.registry_eq`), the reports
are those of the replay (`Run.changes_eq`), and the entry of a token is that of the last commit
under it (`Registry.get?_replay`).  Commits are writes under the tokens of their files
(`Registry.replay_eq_writeAll`), so that what holds of all writes is not proved again. -/

namespace ScopedStyles

open History

variable {S : Type}

/-! ### Replay -/

/-- What a commit writes: its token and its entry. -/
def Commit.write (c : Commit) : Token × Entry := (c.token, c.entry)

namespace Registry

/-- The registry after commits, one after another. -/
def replay (r : Registry) (cs : List Commit) : Registry :=
  cs.foldl (fun r c => (r.put c.token c.entry).1) r

/-- What commits report, one after another. -/
def reports : Registry → List Commit → List Change
  | _, [] => []
  | r, c :: cs => r.change c.token c.entry :: reports (r.put c.token c.entry).1 cs

theorem replay_eq_writeAll (r : Registry) (cs : List Commit) :
    r.replay cs = r.writeAll (cs.map Commit.write) := by
  unfold replay writeAll
  rw [List.foldl_map]
  rfl

theorem reports_eq_writeReports : ∀ (r : Registry) (cs : List Commit),
    r.reports cs = r.writeReports (cs.map Commit.write)
  | _, [] => rfl
  | r, c :: cs => by
      rw [reports, reports_eq_writeReports]
      rfl

theorem replay_cons (r : Registry) (c : Commit) (cs : List Commit) :
    r.replay (c :: cs) = (r.put c.token c.entry).1.replay cs := rfl

theorem replay_append (r : Registry) (cs ds : List Commit) :
    r.replay (cs ++ ds) = (r.replay cs).replay ds := by
  simp only [replay_eq_writeAll, List.map_append, writeAll_append]

theorem reports_append (r : Registry) (cs ds : List Commit) :
    r.reports (cs ++ ds) = r.reports cs ++ (r.replay cs).reports ds := by
  simp only [reports_eq_writeReports, replay_eq_writeAll, List.map_append, writeReports_append]

theorem get?_replay (t : Token) (r : Registry) (cs : List Commit) :
    (r.replay cs).get? t =
      ((cs.filter fun c => c.token = t).getLast?.map Commit.entry).or (r.get? t) := by
  have hunder : entriesUnder t (cs.map Commit.write) =
      (cs.filter fun c => c.token = t).map Commit.entry := by
    unfold entriesUnder
    rw [List.filter_map, List.map_map]
    rfl
  rw [replay_eq_writeAll, get?_writeAll, hunder, List.getLast?_map]

theorem Sorted.replay {r : Registry} (cs : List Commit) (h : r.Sorted) : (r.replay cs).Sorted := by
  rw [replay_eq_writeAll]
  exact h.writeAll _

end Registry

/-! ### The commits of a run -/

namespace Turn

theorem flight?_of_commit? {u : Turn S} {c : Commit} (h : u.commit? = some c) :
    u.event.flight? = some c.flight := by
  unfold commit? at h
  split at h
  · rename_i n artifact he
    split at h
    · cases h
      rw [he]
      rfl
    · cases h
  · cases h

theorem flight?_of_returned? {u : Turn S} {p : Nat × Returned} (h : u.returned? = some p) :
    u.event.flight? = some p.1 := by
  unfold returned? at h
  split at h
  · rename_i he _
    cases h
    exact he
  · cases h

end Turn

namespace History

theorem mem_commits {h : History S} {c : Commit} :
    c ∈ commits h ↔ ∃ u ∈ h, u.commit? = some c := List.mem_filterMap

theorem mem_returns {h : History S} {p : Nat × Returned} :
    p ∈ returns h ↔ ∃ u ∈ h, u.returned? = some p := List.mem_filterMap

theorem mem_commits_turnsOf {h : History S} {c : Commit} {n : Nat} :
    c ∈ commits (turnsOf h n) ↔ c ∈ commits h ∧ c.flight = n := by
  simp only [mem_commits, mem_turnsOf]
  constructor
  · rintro ⟨u, ⟨hu, he⟩, hc⟩
    rw [Turn.flight?_of_commit? hc] at he
    exact ⟨⟨u, hu, hc⟩, Option.some.inj he⟩
  · rintro ⟨⟨u, hu, hc⟩, rfl⟩
    exact ⟨u, ⟨hu, Turn.flight?_of_commit? hc⟩, hc⟩

theorem mem_returns_turnsOf {h : History S} {p : Nat × Returned} {n : Nat} :
    p ∈ returns (turnsOf h n) ↔ p ∈ returns h ∧ p.1 = n := by
  simp only [mem_returns, mem_turnsOf]
  constructor
  · rintro ⟨u, ⟨hu, he⟩, hc⟩
    rw [Turn.flight?_of_returned? hc] at he
    exact ⟨⟨u, hu, hc⟩, Option.some.inj he⟩
  · rintro ⟨⟨u, hu, hc⟩, rfl⟩
    exact ⟨u, ⟨hu, Turn.flight?_of_returned? hc⟩, hc⟩

end History

namespace Run

variable {filter : Filter} {h : History S} {s : Session S}

theorem registry_eq (run : Run filter h s) : s.registry = Registry.empty.replay (commits h) := by
  induction run with
  | fresh => rfl
  | @turn h s e r _ hstep _ ih =>
      rw [commits_concat, Registry.replay_append, ← ih]
      rcases (Session.takes_of_step hstep).write_or_keep with ⟨c, hc, -, -, -, -, hr⟩ | ⟨hc, -, hr⟩
      · rw [hc, hr]; rfl
      · rw [hc, hr]; rfl

theorem changes_eq (run : Run filter h s) : changes h = Registry.empty.reports (commits h) := by
  induction run with
  | fresh => rfl
  | @turn h s e r run hstep _ ih =>
      rw [changes_concat, commits_concat, Registry.reports_append, ← ih, ← run.registry_eq]
      rcases (Session.takes_of_step hstep).write_or_keep with ⟨c, hc, -, -, -, hk, -⟩ | ⟨hc, hk, -⟩
      · rw [hc, hk]; rfl
      · rw [hc, hk]; rfl

theorem sorted (run : Run filter h s) : s.registry.Sorted := by
  rw [run.registry_eq]
  exact Registry.sorted_empty.replay _

theorem sorted_of_mem (run : Run filter h s) {u : Turn S} (hu : u ∈ h) :
    u.after.session.registry.Sorted := by
  induction run with
  | fresh => cases hu
  | turn run hstep hnew ih =>
      rcases List.mem_append.mp hu with hu | hu
      · exact ih hu
      · obtain rfl := List.mem_singleton.mp hu
        exact (run.turn hstep hnew).sorted

/-- A transform commits once at most. -/
theorem commits_turnsOf (run : Run filter h s) {c : Commit} (hc : c ∈ commits h) :
    commits (turnsOf h c.flight) = [c] := by
  have hmem : c ∈ commits (turnsOf h c.flight) := mem_commits_turnsOf.mpr ⟨hc, rfl⟩
  rcases (run.life c.flight).outcome with ⟨h₁, -, -⟩ | ⟨d, -, h₁, -, -⟩
  · rw [h₁] at hmem
    cases hmem
  · rw [h₁] at hmem ⊢
    rw [List.mem_singleton.mp hmem]

/-- A transform that commits returns its output, if it returns. -/
theorem output_of_returned (run : Run filter h s) {p : Nat × Returned} (hp : p ∈ returns h)
    {c : Commit} (hc : c ∈ commits h) (hcp : c.flight = p.1) :
    p.2 = .ok (some (outputOf c.code c.id)) := by
  have hp' : p ∈ returns (turnsOf h c.flight) := mem_returns_turnsOf.mpr ⟨hp, hcp.symm⟩
  have hc' := run.commits_turnsOf hc
  rcases (run.life c.flight).outcome with ⟨h₁, -, -⟩ | ⟨d, -, h₁, h₃, -⟩
  · rw [h₁] at hc'
    cases hc'
  · rw [h₁] at hc'
    cases hc'
    exact h₃ p hp'

/-- A transform that returns an output has committed. -/
theorem committed_of_output (run : Run filter h s) {p : Nat × Returned} (hp : p ∈ returns h)
    {output : Output} (ho : p.2 = .ok (some output)) : ∃ c ∈ commits h, c.flight = p.1 := by
  have hp' : p ∈ returns (turnsOf h p.1) := mem_returns_turnsOf.mpr ⟨hp, rfl⟩
  rcases (run.life p.1).outcome with ⟨-, -, h₃⟩ | ⟨c, -, h₁, -, -⟩
  · exact absurd ⟨output, ho⟩ (h₃ p hp')
  · exact ⟨c, mem_commits_turnsOf.mp (h₁ ▸ List.mem_singleton_self c)⟩

end Run
end ScopedStyles
