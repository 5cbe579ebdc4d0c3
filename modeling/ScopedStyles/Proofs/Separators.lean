import ScopedStyles.Proofs.Filter

/-! # Spellings of a path

The same path can be spelled with slashes, with backslashes and with both (`SamePath`).  Globs see
slashes only, whichever stand in the id.  The default patterns are regular expressions and see the
id as it is, but none of them can tell the separators apart: an extension has none in it
(`hasExtension_slashed_iff`), and a directory may have one of either kind on each side
(`passesThrough_iff_slashed`).  So a filter of globs and default lists gives all spellings of a path
the same verdict (`Filter.spellings_alike`). -/

namespace ScopedStyles

open Glob (slashed)

/-! ### Texts with slashes for backslashes -/

/-- No character is a separator. -/
def Unseparated (s : List Char) : Prop := ∀ a ∈ separators, a ∉ s

instance (s : List Char) : Decidable (Unseparated s) := List.decidableBAll _ separators

theorem slashed_eq_iff : ∀ {ds w : List Char}, Unseparated w → (slashed ds = w ↔ ds = w)
  | [], _, _ => Iff.rfl
  | _ :: _, [], _ => by simp [slashed]
  | d :: ds, c :: w, h => by
      have hslash : c ≠ '/' := fun hc => h '/' (by decide) (hc ▸ List.mem_cons_self)
      have hback : c ≠ '\\' := fun hc => h '\\' (by decide) (hc ▸ List.mem_cons_self)
      have hchar : (if d = '\\' then '/' else d) = c ↔ d = c := by
        by_cases hd : d = '\\'
        · simp [hd, hslash.symm, hback.symm]
        · rw [if_neg hd]
      have hrest : slashed ds = w ↔ ds = w :=
        slashed_eq_iff fun a ha hw => h a ha (List.mem_cons_of_mem _ hw)
      show (if d = '\\' then '/' else d) :: slashed ds = c :: w ↔ d :: ds = c :: w
      rw [List.cons.injEq, List.cons.injEq, hchar, hrest]

section

variable {w s : List Char}

theorem suffix_slashed_iff (hw : Unseparated w) : w <:+ slashed s ↔ w <:+ s := by
  refine List.suffix_map_iff.trans ⟨?_, fun h => ⟨w, h, ((slashed_eq_iff hw).mpr rfl).symm⟩⟩
  rintro ⟨ds, hds, h⟩
  rwa [(slashed_eq_iff hw).mp h.symm] at hds

theorem infix_slashed_iff (hw : Unseparated w) : w <:+: slashed s ↔ w <:+: s := by
  refine List.infix_map_iff.trans ⟨?_, fun h => ⟨w, h, ((slashed_eq_iff hw).mpr rfl).symm⟩⟩
  rintro ⟨ds, hds, h⟩
  rwa [(slashed_eq_iff hw).mp h.symm] at hds

theorem hasExtension_slashed_iff {name : String} (h : Unseparated name.toList) :
    HasExtension (slashed s) name ↔ HasExtension s name := by
  have hlast : Unseparated ('.' :: name.toList) := by
    intro a ha hmem
    rcases List.mem_cons.mp hmem with rfl | hmem
    · exact absurd ha (by decide)
    · exact h a ha hmem
  have hinside : Unseparated ('.' :: name.toList ++ ['?']) := by
    intro a ha hmem
    rcases List.mem_append.mp hmem with hmem | hmem
    · exact hlast a ha hmem
    · rw [List.mem_singleton.mp hmem] at ha
      exact absurd ha (by decide)
  rw [hasExtension_iff, hasExtension_iff, suffix_slashed_iff hlast, infix_slashed_iff hinside]

theorem slash_eq_iff {c : Char} : (if c = '\\' then '/' else c) = '/' ↔ c ∈ separators := by
  by_cases hc : c = '\\' <;> simp [separators, hc]

/-- What is made into a name between slashes is the name between separators of any kind. -/
theorem slashed_eq_enclosed_iff {ds name : List Char} (h : Unseparated name) :
    slashed ds = '/' :: name ++ ['/'] ↔
      ∃ a ∈ separators, ∃ b ∈ separators, ds = a :: name ++ [b] := by
  constructor
  · intro hds
    obtain ⟨front, back, rfl, hfront, hback⟩ := List.map_eq_append_iff.mp hds
    obtain ⟨a, mid, rfl, ha, hmid⟩ := List.map_eq_cons_iff.mp hfront
    obtain ⟨b, rfl, hb⟩ := List.map_eq_singleton_iff.mp hback
    obtain rfl := (slashed_eq_iff h).mp hmid
    exact ⟨a, slash_eq_iff.mp ha, b, slash_eq_iff.mp hb, rfl⟩
  · rintro ⟨a, ha, b, hb, rfl⟩
    have hname : slashed name = name := (slashed_eq_iff h).mpr rfl
    unfold slashed at hname ⊢
    rw [List.map_append, List.map_cons, List.map_singleton, hname, slash_eq_iff.mpr ha,
      slash_eq_iff.mpr hb]

/-- A directory is seen between separators of any kind where it is seen between slashes. -/
theorem passesThrough_iff_slashed {name : String} (h : Unseparated name.toList) :
    PassesThrough s name ↔ '/' :: name.toList ++ ['/'] <:+: slashed s := by
  unfold PassesThrough
  refine Iff.trans ?_ List.infix_map_iff.symm
  constructor
  · rintro ⟨a, ha, b, hb, hin⟩
    exact ⟨_, hin, ((slashed_eq_enclosed_iff h).mpr ⟨a, ha, b, hb, rfl⟩).symm⟩
  · rintro ⟨ds, hin, hds⟩
    obtain ⟨a, ha, b, hb, rfl⟩ := (slashed_eq_enclosed_iff h).mp hds.symm
    exact ⟨a, ha, b, hb, hin⟩

end

/-! ### Patterns that cannot tell separators apart -/

/-- The ids become equal when every backslash is made a slash. -/
def SamePath (id id' : String) : Prop := slashed id.toList = slashed id'.toList

instance (id id' : String) : Decidable (SamePath id id') :=
  inferInstanceAs (Decidable (slashed id.toList = slashed id'.toList))

namespace FilterPattern

variable {base : String} {p : FilterPattern}

/-- The pattern matches all spellings of a path or none. -/
def IgnoresSeparators (base : String) (p : FilterPattern) : Prop :=
  ∀ id id', SamePath id id' → (p.Matches base id ↔ p.Matches base id')

/-- A glob sees what all spellings have in common. -/
theorem IgnoresSeparators.of_glob (base text : String) : (glob text).IgnoresSeparators base := by
  intro id id' h
  have hview : globView id = globView id' := by
    unfold globView
    rw [h]
  unfold Matches
  rw [hview]

theorem matches_of_searches {text : String} {P : List Char → Prop} (h : Regex.Searches text P)
    {id : String} : (regex text).Matches base id ↔ P id.toList := by
  obtain ⟨e, he, hP⟩ := h
  have hcompile : (regex text).compile (directory base) = .ok (.regex e) := by
    simp only [compile, he]
  rw [← hP, isMatch_iff hcompile]

theorem IgnoresSeparators.of_searches {text : String} {P : List Char → Prop}
    (h : Regex.Searches text P) (hP : ∀ s s', slashed s = slashed s' → (P s ↔ P s')) :
    (regex text).IgnoresSeparators base := by
  intro id id' hsame
  rw [matches_of_searches h, matches_of_searches h]
  exact hP _ _ hsame

end FilterPattern

theorem extensions_congr {names : List String} (hnames : ∀ name ∈ names, Unseparated name.toList)
    (s s' : List Char) (h : slashed s = slashed s') :
    (∃ name ∈ names, HasExtension s name) ↔ ∃ name ∈ names, HasExtension s' name := by
  refine exists_congr fun name => and_congr_right fun hname => ?_
  have hfree := hnames name hname
  rw [← hasExtension_slashed_iff hfree, h, hasExtension_slashed_iff hfree]

theorem passesThrough_congr {name : String} (hname : Unseparated name.toList) (s s' : List Char)
    (h : slashed s = slashed s') : PassesThrough s name ↔ PassesThrough s' name := by
  rw [passesThrough_iff_slashed hname, h, passesThrough_iff_slashed hname]

theorem ignoresSeparators_default (base : String) : ∀ t ∈ defaultIncludes ++ defaultExcludes,
    (FilterPattern.regex t).IgnoresSeparators base := by
  simp only [defaultIncludes, defaultExcludes, List.cons_append, List.nil_append,
    List.forall_mem_cons, List.not_mem_nil, false_implies, implies_true, and_true]
  exact ⟨.of_searches searches_sources (extensions_congr (by decide)),
    .of_searches searches_styles (extensions_congr (by decide)),
    .of_searches searches_packages (passesThrough_congr (by decide)),
    .of_searches searches_history (passesThrough_congr (by decide))⟩

/-! ### Verdicts -/

/-- There is no list, so that the default one counts, or all its patterns are globs. -/
def GlobsOnly (l : Option (List FilterPattern)) : Prop :=
  ∀ ps, l = some ps → ∀ p ∈ ps, ∃ text, p = .glob text

theorem GlobsOnly.ignoresSeparators {l : Option (List FilterPattern)} (h : GlobsOnly l)
    {base : String} {defaults : List String}
    (hdefaults : ∀ t ∈ defaults, (FilterPattern.regex t).IgnoresSeparators base) :
    ∀ p ∈ Filter.listOr defaults l, p.IgnoresSeparators base := by
  intro p hp
  cases l with
  | none =>
      obtain ⟨t, ht, rfl⟩ := List.mem_map.mp hp
      exact hdefaults t ht
  | some ps =>
      obtain ⟨text, rfl⟩ := h ps rfl p hp
      exact .of_glob base text

/-- All spellings of a path pass, or none, if no pattern can tell them apart. -/
theorem Options.passes_congr {o : Options} {base : String}
    (hi : ∀ p ∈ o.includeList, p.IgnoresSeparators base)
    (he : ∀ p ∈ o.excludeList, p.IgnoresSeparators base) {id id' : String}
    (h : SamePath id id') : o.Passes base id ↔ o.Passes base id' := by
  have hexcludes : (∀ p ∈ o.excludeList, ¬ p.Matches base id) ↔
      ∀ p ∈ o.excludeList, ¬ p.Matches base id' :=
    forall_congr' fun p => imp_congr_right fun hp => not_congr (he p hp id id' h)
  have hincludes : (∃ p ∈ o.includeList, p.Matches base id) ↔
      ∃ p ∈ o.includeList, p.Matches base id' :=
    exists_congr fun p => and_congr_right fun hp => hi p hp id id' h
  unfold Passes
  rw [hexcludes, hincludes]

namespace Filter

/-- **All spellings of a path have the same verdict** in a filter whose lists are lists of globs or
the default ones. -/
theorem spellings_alike {o : Options} {base : String} {f : Filter} (hf : build o base = .ok f)
    (hi : GlobsOnly o.includes) (he : GlobsOnly o.excludes) :
    (∀ id id', SamePath id id' → f.accepts id = f.accepts id') ∧
      ∀ path, (∀ id, SamePath id path → f.accepts id = true) ∨
        ∀ id, SamePath id path → f.accepts id = false := by
  have hdefaults := ignoresSeparators_default base
  have hincludes := hi.ignoresSeparators fun t ht => hdefaults t (List.mem_append_left _ ht)
  have hexcludes := he.ignoresSeparators fun t ht => hdefaults t (List.mem_append_right _ ht)
  have hsame (id id' : String) (h : SamePath id id') : f.accepts id = f.accepts id' := by
    rw [Bool.eq_iff_iff, accepts_iff_passes hf, accepts_iff_passes hf]
    exact Options.passes_congr hincludes hexcludes h
  refine ⟨hsame, fun path => ?_⟩
  cases hpath : f.accepts path with
  | true => exact .inl fun id h => (hsame id path h).trans hpath
  | false => exact .inr fun id h => (hsame id path h).trans hpath

/-- The default includes with a relative glob as exclude: three spellings of a path that is
excluded, and two of one that is not. -/
theorem spellings_alike_windows : ∃ f,
    build ⟨none, some [.glob "lib/**/*.ts"]⟩ "C:\\app" = .ok f ∧
      f.accepts "C:\\app\\lib\\x\\a.ts" = false ∧ f.accepts "C:/app/lib/x/a.ts" = false ∧
      f.accepts "C:\\app/lib\\x/a.ts" = false ∧ f.accepts "C:\\app\\src\\a.ts" = true ∧
      f.accepts "C:\\app/src/a.ts" = true := by
  have hany : (build ⟨none, some [.glob "lib/**/*.ts"]⟩ "C:\\app").toOption.any (fun f =>
      f.accepts "C:/app/lib/x/a.ts" = false ∧ f.accepts "C:/app/src/a.ts" = true) = true := by
    decide +kernel
  obtain ⟨f, hf, hids⟩ := (Option.any_eq_true _ _).mp hany
  have hok := ok_of_toOption hf
  obtain ⟨hlib, hsrc⟩ := of_decide_eq_true hids
  obtain ⟨hsame, -⟩ := spellings_alike hok (fun ps h => by cases h) (fun ps h p hp => by
    obtain rfl := Option.some.inj h
    exact ⟨_, List.mem_singleton.mp hp⟩)
  exact ⟨f, hok, (hsame _ "C:/app/lib/x/a.ts" (by decide)).trans hlib, hlib,
    (hsame _ "C:/app/lib/x/a.ts" (by decide)).trans hlib,
    (hsame _ "C:/app/src/a.ts" (by decide)).trans hsrc,
    (hsame _ "C:/app/src/a.ts" (by decide)).trans hsrc⟩

end Filter
end ScopedStyles
