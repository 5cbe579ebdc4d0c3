import ScopedStyles.Proofs.Filter
import ScopedStyles.Proofs.Session.OneToken

/-! # The candidates of the default lists

Without pattern lists a file is a candidate by its id alone (`IsDefaultCandidate`): it has the
extension of a source file and none of a stylesheet, and it lies neither among installed packages
nor in version control.  `Filter.default_exact` says that the filter of the default options accepts
these ids whatever the base directory, and that a session with this filter asks its generator about
the files with such an id and about no others. -/

namespace ScopedStyles

open History

variable {S : Type}

/-! ### Transforms that ask the generator -/

/-- The code and the id of each transform that a history starts, in their order. -/
def History.starts (h : History S) : List (String × String) := h.filterMap fun u => u.event.file?

/-- What the generator is asked about a file. -/
def requestFor (file : String × String) : String × String × Option String :=
  (file.1, file.2, explicitScope file.1 file.2)

/-- A step asks the generator if it starts a transform of a candidate. -/
theorem Session.Takes.requests_eq {s : Session S} {e : Event S} {r : Stepped S}
    (ht : Takes s e r) : Turn.requests ⟨s, e, r⟩ =
      (e.file?.toList.filter fun file => s.isCandidate file.2).map requestFor := by
  cases ht with
  | @skip n code id hn hc =>
      have hno : ([(code, id)].filter fun file => s.isCandidate file.2) = [] := by simp [hc]
      show [] = _
      simp [Event.file?, hno]
  | @launch n code id hn hc =>
      have hyes : ([(code, id)].filter fun file => s.isCandidate file.2) = [(code, id)] := by
        simp [hc]
      show [(code, id, explicitScope code id)] = _
      simp [Event.file?, hyes, requestFor]
  | load id => exact (Takes.load id).requests_eq_nil rfl
  | attach server => exact (Takes.attach server).requests_eq_nil rfl
  | _ => rfl

theorem Run.requests_eq {filter : Filter} {h : History S} {s : Session S} (run : Run filter h s) :
    requests h = ((starts h).filter fun file =>
      (Session.fresh filter : Session S).isCandidate file.2).map requestFor := by
  induction run with
  | fresh => rfl
  | @turn h s e r run hstep hnew ih =>
      have hstarts : starts (h ++ [⟨s, e, r⟩]) = starts h ++ e.file?.toList := by
        unfold starts
        rw [List.filterMap_append]
        cases he : e.file? <;> simp [he]
      have hrequests : requests (h ++ [⟨s, e, r⟩]) = requests h ++ Turn.requests ⟨s, e, r⟩ := by
        simp [requests]
      have hsame (id : String) :
          s.isCandidate id = (Session.fresh filter : Session S).isCandidate id :=
        Session.isCandidate_congr run.filter_eq id
      rw [hstarts, hrequests, List.filter_append, List.map_append, ih,
        (Session.takes_of_step hstep).requests_eq]
      simp only [hsame]

/-! ### Default candidates -/

/-- What the default lists ask of an id. -/
structure IsDefaultCandidate (id : String) : Prop where
  /-- It has the extension of a source file, -/
  source : ∃ name ∈ sourceExtensions, HasExtension id.toList name
  /-- but of no stylesheet, -/
  unstyled : ¬ ∃ name ∈ styleExtensions, HasExtension id.toList name
  /-- and passes through no such directory. -/
  packages : ¬ PassesThrough id.toList "node_modules"
  history : ¬ PassesThrough id.toList ".git"

theorem isDefaultCandidate_iff {id : String} : IsDefaultCandidate id ↔
    (∃ name ∈ sourceExtensions, HasExtension id.toList name) ∧
      (¬ ∃ name ∈ styleExtensions, HasExtension id.toList name) ∧
      ¬ PassesThrough id.toList "node_modules" ∧ ¬ PassesThrough id.toList ".git" :=
  ⟨fun ⟨hs, hu, hp, hh⟩ => ⟨hs, hu, hp, hh⟩, fun ⟨hs, hu, hp, hh⟩ => ⟨hs, hu, hp, hh⟩⟩

instance (id : String) : Decidable (IsDefaultCandidate id) :=
  decidable_of_iff _ isDefaultCandidate_iff.symm

/-- A file that is a stylesheet by the end of its name is no default candidate anyway. -/
theorem IsDefaultCandidate.not_css {id : String} (h : IsDefaultCandidate id) :
    ¬ ".css".toList <:+ id.toList := by
  intro hcss
  apply h.unstyled
  exact ⟨"css", by decide, hasExtension_iff.mpr (.inl hcss)⟩

theorem Filter.exists_default : ∃ f : Filter, (∀ base, build .default base = .ok f) ∧
    ∀ id, f.accepts id = true ↔ IsDefaultCandidate id := by
  obtain ⟨source, hsource, hsources⟩ := searches_sources
  obtain ⟨style, hstyle, hstyles⟩ := searches_styles
  obtain ⟨package, hpackage, hpackages⟩ := searches_packages
  obtain ⟨git, hgit, hgits⟩ := searches_history
  refine ⟨⟨[.regex source], [.regex style, .regex package, .regex git]⟩, fun base => ?_,
    fun id => ?_⟩
  · simp only [build, Options.default, listOr, Option.getD_none, defaultIncludes, defaultExcludes,
      List.map_cons, List.map_nil, compileAll, FilterPattern.compile, hsource, hstyle, hpackage,
      hgit]
    rfl
  · have hall : accepts ⟨[.regex source], [.regex style, .regex package, .regex git]⟩ id = true ↔
        (Matcher.regex source).isMatch id = true ∧
          ¬ (Matcher.regex style).isMatch id = true ∧
          ¬ (Matcher.regex package).isMatch id = true ∧
          ¬ (Matcher.regex git).isMatch id = true := by
      simp [accepts, and_comm]
    rw [hall, hsources, hstyles, hpackages, hgits, isDefaultCandidate_iff]

/-- **The candidates of the default lists.** -/
theorem Filter.default_exact : ∃ f : Filter, (∀ base, build .default base = .ok f) ∧
    (∀ id, f.accepts id = true ↔ IsDefaultCandidate id) ∧
    ∀ (S : Type) (h : History S) (s : Session S), Run f h s →
      requests h = ((starts h).filter fun file => IsDefaultCandidate file.2).map requestFor := by
  obtain ⟨f, hbuild, haccepts⟩ := Filter.exists_default
  refine ⟨f, hbuild, haccepts, fun S h s run => ?_⟩
  have hcandidate (id : String) :
      (Session.fresh f : Session S).isCandidate id = decide (IsDefaultCandidate id) := by
    rw [Bool.eq_iff_iff, Session.isCandidate_iff, decide_eq_true_iff]
    constructor
    · rintro ⟨-, hid⟩
      exact (haccepts id).mp hid
    · exact fun hid => ⟨hid.not_css, (haccepts id).mpr hid⟩
  rw [run.requests_eq]
  simp only [hcandidate]

/-- A stylesheet's extension in the middle of a name and a page's in front of a query; a line break
behind an extension, a stylesheet's extension in a query, and separators of both kinds. -/
theorem default_exact_mixed_ids : ∃ (f : Filter) (h : History String) (s : Session String),
    (∀ base, Filter.build .default base = .ok f) ∧ Run f h s ∧
      starts h = [("", "/a.styl.mdx?x"), ("", "/a.ts\n")] ∧
      requests h = [("", "/a.styl.mdx?x", none)] ∧
      f.accepts "/a.ts?b.styl?" = false ∧ f.accepts "C:/node_modules\\a.ts" = false ∧
      f.accepts "C:\\node_modules.ts/a.phtml" = true := by
  obtain ⟨f, hbuild, haccepts, hrequests⟩ := Filter.default_exact
  have hcandidate (id : String) (hid : ¬ ".css".toList <:+ id.toList) (s : Session String)
      (hs : s.filter = f) : s.isCandidate id = true ↔ IsDefaultCandidate id := by
    rw [Session.isCandidate_iff, hs, haccepts]
    exact and_iff_right hid
  have run₁ : Run f _ _ := (Run.fresh (S := String)).turn (e := .start 0 "" "/a.styl.mdx?x")
    (Session.step_of_takes (.launch rfl ((hcandidate _ (by decide) _ rfl).mpr (by decide))))
    fun _ _ u hu => by cases hu
  have run₂ := run₁.turn (e := .start 1 "" "/a.ts\n")
    (Session.step_of_takes (.skip rfl (by
      rw [← Bool.not_eq_true, hcandidate _ (by decide) _ rfl]
      decide)))
    fun n hn u hu => by
      cases hn
      obtain rfl := List.mem_singleton.mp hu
      show some 0 ≠ some 1
      decide
  refine ⟨f, _, _, hbuild, run₂, rfl, ?_, ?_, ?_, ?_⟩
  · have hasked := hrequests _ _ _ run₂
    change _ = (List.filter _ [("", "/a.styl.mdx?x"), ("", "/a.ts\n")]).map requestFor at hasked
    rw [hasked]
    decide +kernel
  · rw [← Bool.not_eq_true, haccepts]
    decide
  · rw [← Bool.not_eq_true, haccepts]
    decide
  · rw [haccepts]
    decide

end ScopedStyles
