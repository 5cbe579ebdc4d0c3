import ScopedStyles.Proofs.DefaultPatterns
import ScopedStyles.Proofs.Glob.Limits

/-! # From pattern lists to verdicts

A filter is built from an include list and an exclude list of globs and regular expressions.  A
pattern compiles (`FilterPattern.Compiles`), or it is malformed, or it is a glob that exceeds a
limit; one that compiles matches some ids (`FilterPattern.Matches`).  `Filter.build_exact` says what
becomes of all of them together (`Filter.Exact`): the first pattern that does not compile, includes
before excludes, is named if it is malformed and stops the program if it exceeds a limit; if there
is none, an id is accepted if no exclude pattern matches it and some include pattern does, or the
include list is given and empty.  The verdicts depend on the members of the lists only, and they
fall as excludes are added and rise as includes are added to some. -/

namespace ScopedStyles

open Glob (anchor slashed braced braces)
open Pattern (Spans)

/-! ### What becomes of patterns -/

/-- A base directory as globs are anchored at it. -/
def directory (base : String) : List Char := slashed base.toList

/-- The bytes of an id with slashes for backslashes, as globs see it. -/
def globView (id : String) : List Nat := (Utf8.bytes (slashed id.toList)).map UInt8.toNat

/-- The code points of an id as it is, as regular expressions see it. -/
def regexView (id : String) : List Nat := codesOf id.toList

namespace FilterPattern

/-- The pattern is well formed, a glob when it is anchored, and it exceeds no limit. -/
def Compiles (base : String) : FilterPattern → Prop
  | glob t =>
      ∃ ps, Glob.parse (anchor (directory base) t.toList) = .ok ps ∧ Glob.excess? ps = none
  | regex t => ∃ e, Regex.compile t.toList = .ok e

/-- The pattern is not well formed, or it is a regular expression that is too big. -/
def Malformed (base : String) : FilterPattern → Prop
  | glob t => ∃ f, Glob.parse (anchor (directory base) t.toList) = .error f
  | regex t => ∃ r, Regex.compile t.toList = .error r

/-- The pattern is a well-formed glob that nests too deep or is too big. -/
def Exceeds (base : String) : FilterPattern → Prop
  | glob t =>
      ∃ ps e, Glob.parse (anchor (directory base) t.toList) = .ok ps ∧ Glob.excess? ps = some e
  | regex _ => False

/-- The pattern is well formed and matches an id: a glob all of it, with slashes for backslashes, a
regular expression some part of it, as it is. -/
def Matches (base id : String) : FilterPattern → Prop
  | glob t => ∃ ps, Glob.parse (anchor (directory base) t.toList) = .ok ps ∧
      Spans (globView id) (Glob.expr ps) 0 (globView id).length
  | regex t => ∃ e, Regex.compile t.toList = .ok e ∧
      ∃ i j, i ≤ (regexView id).length ∧ Spans (regexView id) e i j

end FilterPattern

/-- The first pattern of a list that does not compile has a property. -/
inductive FirstFails (base : String) (P : FilterPattern → Prop) : List FilterPattern → Prop
  | here {p : FilterPattern} {ps : List FilterPattern} (hno : ¬ p.Compiles base) (hp : P p) :
      FirstFails base P (p :: ps)
  | later {p : FilterPattern} {ps : List FilterPattern} (hp : p.Compiles base)
      (hps : FirstFails base P ps) : FirstFails base P (p :: ps)

/-! ### One pattern -/

theorem parse_anchor_braced (n : Nat) : Glob.parse (anchor (directory "/") (braced n [])) =
    .ok [.literal '/', braces n] := by
  have hbelow := (Glob.parse_below (B := []) (by simp) (Glob.parse_braced n)
    (by cases n <;> nofun)).1
  cases n <;> exact hbelow

namespace FilterPattern

variable {base id : String} {p : FilterPattern}

/-- Each result of compiling a pattern has its predicate. -/
theorem compile_exact (base : String) (p : FilterPattern) :
    (p.Compiles base ↔ ∃ m, p.compile (directory base) = .ok m) ∧
      (p.Malformed base ↔ ∃ fault, p.compile (directory base) = .error (.invalid fault)) ∧
      (p.Exceeds base ↔ ∃ e, p.compile (directory base) = .error (.crash e)) := by
  cases p with
  | glob t =>
      simp only [Compiles, Malformed, Exceeds, compile]
      cases Glob.parse (anchor (directory base) t.toList) with
      | error f => simp
      | ok ps => cases h : Glob.excess? ps <;> simp [h]
  | regex t =>
      simp only [Compiles, Malformed, Exceeds, compile]
      cases Regex.compile t.toList <;> simp

theorem compiles_iff : p.Compiles base ↔ ∃ m, p.compile (directory base) = .ok m :=
  (compile_exact base p).1

theorem malformed_iff :
    p.Malformed base ↔ ∃ fault, p.compile (directory base) = .error (.invalid fault) :=
  (compile_exact base p).2.1

theorem exceeds_iff : p.Exceeds base ↔ ∃ e, p.compile (directory base) = .error (.crash e) :=
  (compile_exact base p).2.2

theorem not_compiles_iff : ¬ p.Compiles base ↔ p.Malformed base ∨ p.Exceeds base := by
  rw [compiles_iff, malformed_iff, exceeds_iff]
  match p.compile (directory base) with
  | .ok m => simp
  | .error (.invalid fault) => simp
  | .error (.crash e) => simp

theorem exceeds_braced {n : Nat} (h : Regex.nestLimit ≤ n) :
    (glob (String.ofList (braced n []))).Exceeds "/" := by
  refine ⟨[.literal '/', braces n], .nesting, ?_, Glob.excess?_eq_nesting_iff.mpr ?_⟩
  · rw [String.toList_ofList]
    exact parse_anchor_braced n
  · have hdeep : Regex.nestLimit < Glob.nesting [braces n] := by
      rw [Glob.nesting_braces]
      exact Nat.lt_succ_of_le h
    exact (Glob.nestLimit_lt_nesting_literally_append_iff (s := ['/']) (by simp)
      (Glob.braces_ne_leading n)).mpr hdeep

theorem isMatch_iff {m : Matcher} (h : p.compile (directory base) = .ok m) :
    m.isMatch id = true ↔ p.Matches base id := by
  cases p with
  | glob t =>
      simp only [compile] at h
      split at h
      · rename_i ps hps
        split at h <;> cases h
        simp only [Matches, hps, Except.ok.injEq, exists_eq_left']
        exact Pattern.matchesWhole_iff_spans
      · cases h
  | regex t =>
      simp only [compile] at h
      split at h
      · rename_i e he
        cases h
        simp only [Matches, he, Except.ok.injEq, exists_eq_left']
        exact Pattern.matchesSomewhere_iff_spans
      · cases h

theorem pattern_of_invalid {fault : InvalidPattern}
    (h : p.compile (directory base) = .error (.invalid fault)) : fault.pattern = p.text := by
  cases p with
  | glob t =>
      simp only [compile] at h
      split at h
      · split at h <;> cases h
      · cases h
        rfl
  | regex t =>
      simp only [compile] at h
      split at h <;> cases h
      rfl

end FilterPattern

/-! ### Patterns in a row -/

namespace FirstFails

variable {base : String} {P Q : FilterPattern → Prop} {p : FilterPattern}
variable {ps qs : List FilterPattern}

theorem not_nil : ¬ FirstFails base P [] := nofun

theorem cons_iff : FirstFails base P (p :: ps) ↔
    ¬ p.Compiles base ∧ P p ∨ p.Compiles base ∧ FirstFails base P ps := by
  constructor
  · rintro (⟨hno, hp⟩ | ⟨hp, hps⟩)
    · exact .inl ⟨hno, hp⟩
    · exact .inr ⟨hp, hps⟩
  · rintro (⟨hno, hp⟩ | ⟨hp, hps⟩)
    · exact .here hno hp
    · exact .later hp hps

theorem append_iff : FirstFails base P (ps ++ qs) ↔
    FirstFails base P ps ∨ (∀ p ∈ ps, p.Compiles base) ∧ FirstFails base P qs := by
  induction ps with
  | nil => simp [not_nil]
  | cons p ps ih =>
      rw [List.cons_append, cons_iff, cons_iff, ih, List.forall_mem_cons]
      tauto

theorem exists_mem (h : FirstFails base P ps) : ∃ p ∈ ps, ¬ p.Compiles base ∧ P p := by
  induction h with
  | here hno hp => exact ⟨_, List.mem_cons_self, hno, hp⟩
  | later _ _ ih =>
      obtain ⟨p, hmem, hp⟩ := ih
      exact ⟨p, List.mem_cons_of_mem _ hmem, hp⟩

theorem mono (h : FirstFails base P ps) (hPQ : ∀ p, ¬ p.Compiles base → P p → Q p) :
    FirstFails base Q ps := by
  induction h with
  | here hno hp => exact .here hno (hPQ _ hno hp)
  | later hp _ ih => exact .later hp ih

theorem congr (h : ∀ p, ¬ p.Compiles base → (P p ↔ Q p)) :
    FirstFails base P ps ↔ FirstFails base Q ps :=
  ⟨fun hP => hP.mono fun p hno => (h p hno).mp, fun hQ => hQ.mono fun p hno => (h p hno).mpr⟩

theorem of_not_compiles (h : ∃ p ∈ ps, ¬ p.Compiles base) :
    FirstFails base (fun _ => True) ps := by
  induction ps with
  | nil => simp at h
  | cons p ps ih =>
      by_cases hp : p.Compiles base
      · rcases (List.exists_mem_cons_iff ..).mp h with hno | hps
        · exact absurd hp hno
        · exact .later hp (ih hps)
      · exact .here hp trivial

theorem exists_iff {α : Type} {Q : α → FilterPattern → Prop} :
    (∃ a, FirstFails base (Q a) ps) ↔ FirstFails base (fun p => ∃ a, Q a p) ps := by
  constructor
  · rintro ⟨a, h⟩
    exact h.mono fun p _ hp => ⟨a, hp⟩
  · intro h
    induction h with
    | here hno hp =>
        obtain ⟨a, ha⟩ := hp
        exact ⟨a, .here hno ha⟩
    | later hp _ ih =>
        obtain ⟨a, ha⟩ := ih
        exact ⟨a, .later hp ha⟩

theorem exists_failure (h : ∃ p ∈ ps, ¬ p.Compiles base) : ∃ failure,
    FirstFails base (fun p => p.compile (directory base) = .error failure) ps := by
  refine exists_iff.mpr ((of_not_compiles h).mono fun p hno _ => ?_)
  cases hc : p.compile (directory base) with
  | ok m => exact absurd (FilterPattern.compiles_iff.mpr ⟨m, hc⟩) hno
  | error failure => exact ⟨failure, rfl⟩

end FirstFails

/-- Compiling stops at the first pattern that does not compile. -/
theorem compileAll_eq_error_iff {base : String} {failure : CompileFailure} :
    ∀ {ps : List FilterPattern}, compileAll (directory base) ps = .error failure ↔
      FirstFails base (fun p => p.compile (directory base) = .error failure) ps
  | [] => iff_of_false nofun FirstFails.not_nil
  | p :: ps => by
      rw [FirstFails.cons_iff, FilterPattern.compiles_iff, ← compileAll_eq_error_iff]
      cases hp : p.compile (directory base) with
      | error failure' =>
          have hstop : compileAll (directory base) (p :: ps) = .error failure' := by
            simp only [compileAll, hp]
            rfl
          simp [hstop]
      | ok m =>
          have hgo : compileAll (directory base) (p :: ps) =
              (compileAll (directory base) ps).map (m :: ·) := by
            simp only [compileAll, hp]
            cases compileAll (directory base) ps <;> rfl
          rw [hgo]
          cases compileAll (directory base) ps <;> simp [Except.map]

theorem compiles_of_compileAll {base : String} {ps : List FilterPattern} {ms : List Matcher}
    (h : compileAll (directory base) ps = .ok ms) : ∀ p ∈ ps, p.Compiles base := by
  by_contra hno
  obtain ⟨failure, hfailure⟩ := FirstFails.exists_failure (by simpa using hno)
  cases h.symm.trans (compileAll_eq_error_iff.mpr hfailure)

/-- Some matchers match an id exactly if some of the patterns do, whatever the id. -/
def MatchAlike (base : String) (ps : List FilterPattern) (ms : List Matcher) : Prop :=
  ∀ id, ms.any (·.isMatch id) = true ↔ ∃ p ∈ ps, p.Matches base id

theorem compileAll_of_compiles {base : String} : ∀ {ps : List FilterPattern},
    (∀ p ∈ ps, p.Compiles base) → ∃ ms, compileAll (directory base) ps = .ok ms ∧
      ms.length = ps.length ∧ MatchAlike base ps ms
  | [], _ => ⟨[], rfl, rfl, by simp [MatchAlike]⟩
  | p :: ps, h => by
      rw [List.forall_mem_cons] at h
      obtain ⟨m, hm⟩ := FilterPattern.compiles_iff.mp h.1
      obtain ⟨ms, hms, hlen, halike⟩ := compileAll_of_compiles h.2
      refine ⟨m :: ms, ?_, by simp [hlen], fun id => ?_⟩
      · simp only [compileAll, hm, hms]
        rfl
      · rw [List.any_cons, Bool.or_eq_true, FilterPattern.isMatch_iff hm, halike id,
          List.exists_mem_cons_iff]

/-! ### Both lists -/

namespace Options

/-- The include list, or the default one. -/
def includeList (o : Options) : List FilterPattern := Filter.listOr defaultIncludes o.includes

/-- The exclude list, or the default one. -/
def excludeList (o : Options) : List FilterPattern := Filter.listOr defaultExcludes o.excludes

/-- All patterns in the order in which they are compiled. -/
def patterns (o : Options) : List FilterPattern := o.includeList ++ o.excludeList

/-- An id that the patterns of the lists let pass. -/
def Passes (o : Options) (base id : String) : Prop :=
  (∀ p ∈ o.excludeList, ¬ p.Matches base id) ∧
    (o.includes = some [] ∨ ∃ p ∈ o.includeList, p.Matches base id)

theorem includeList_eq_nil_iff (o : Options) : o.includeList = [] ↔ o.includes = some [] := by
  unfold includeList Filter.listOr
  cases o.includes with
  | none => decide
  | some ps => simp

/-- An id goes on passing as excludes are taken away and as includes are added to some. -/
theorem Passes.mono {o o' : Options} {base id : String} (h : o.Passes base id)
    (hexcludes : o'.excludeList ⊆ o.excludeList) (hincludes : o.includeList ⊆ o'.includeList)
    (hempty : o.includeList = [] → o'.includeList = []) : o'.Passes base id := by
  obtain ⟨hno, hin⟩ := h
  refine ⟨fun p hp => hno p (hexcludes hp), ?_⟩
  rcases hin with hnil | ⟨p, hp, hmatch⟩
  · rw [← includeList_eq_nil_iff] at hnil ⊢
    exact .inl (hempty hnil)
  · exact .inr ⟨p, hincludes hp, hmatch⟩

/-- The lists of the options have the same members, in any order and any number. -/
structure SameMembers (o o' : Options) : Prop where
  includes : ∀ p, p ∈ o.includeList ↔ p ∈ o'.includeList
  excludes : ∀ p, p ∈ o.excludeList ↔ p ∈ o'.excludeList

namespace SameMembers

variable {o o' : Options} {base : String}

theorem symm (h : SameMembers o o') : SameMembers o' o :=
  ⟨fun p => (h.includes p).symm, fun p => (h.excludes p).symm⟩

theorem mem_patterns (h : SameMembers o o') {p : FilterPattern} (hp : p ∈ o'.patterns) :
    p ∈ o.patterns := by
  rcases List.mem_append.mp hp with hp | hp
  · exact List.mem_append_left _ ((h.includes p).mpr hp)
  · exact List.mem_append_right _ ((h.excludes p).mpr hp)

theorem passes (h : SameMembers o o') {id : String} (hid : o.Passes base id) :
    o'.Passes base id := by
  apply hid.mono
  · exact fun p hp => (h.excludes p).mpr hp
  · exact fun p hp => (h.includes p).mp hp
  · intro hnil
    have hno (p : FilterPattern) : p ∉ o'.includeList := by
      rw [← h.includes, hnil]
      exact List.not_mem_nil
    exact List.eq_nil_iff_forall_not_mem.mpr hno

end SameMembers
end Options

namespace Filter

theorem compiles_default (base : String) :
    ∀ t ∈ defaultIncludes ++ defaultExcludes, (FilterPattern.regex t).Compiles base := by
  have compiles {t : String} {P : List Char → Prop} (h : Regex.Searches t P) :
      (FilterPattern.regex t).Compiles base :=
    ⟨h.choose, h.choose_spec.1⟩
  simp only [defaultIncludes, defaultExcludes, List.cons_append, List.nil_append,
    List.forall_mem_cons, List.not_mem_nil, false_implies, implies_true, and_true]
  exact ⟨compiles searches_sources, compiles searches_styles, compiles searches_packages,
    compiles searches_history⟩

/-- Matchers that match like the patterns of both lists let the same ids pass. -/
theorem accepts_iff_of_alike {o : Options} {base : String} {ms ns : List Matcher}
    (hlen : ms.length = o.includeList.length) (hin : MatchAlike base o.includeList ms)
    (hex : MatchAlike base o.excludeList ns) (id : String) :
    accepts ⟨ms, ns⟩ id = true ↔ o.Passes base id := by
  have hempty : ms.isEmpty = true ↔ o.includes = some [] := by
    rw [← o.includeList_eq_nil_iff, List.isEmpty_iff, ← List.length_eq_zero_iff, hlen,
      List.length_eq_zero_iff]
  have hnone : (!ns.any (·.isMatch id)) = true ↔
      ∀ p ∈ o.excludeList, ¬ p.Matches base id := by
    rw [Bool.not_eq_true', ← Bool.not_eq_true, hex id]
    simp
  rw [accepts, Bool.and_eq_true, Bool.or_eq_true, hnone, hempty, hin id]
  rfl

theorem build_eq (o : Options) (base : String) : build o base = do
    let includes ← compileAll (directory base) o.includeList
    let excludes ← compileAll (directory base) o.excludeList
    return { includes, excludes } := rfl

/-- Building stops at the first pattern that does not compile, includes before excludes. -/
theorem build_eq_error_iff {o : Options} {base : String} {failure : CompileFailure} :
    build o base = .error failure ↔
      FirstFails base (fun p => p.compile (directory base) = .error failure) o.patterns := by
  rw [Options.patterns, FirstFails.append_iff, ← compileAll_eq_error_iff,
    ← compileAll_eq_error_iff, build_eq]
  cases hin : compileAll (directory base) o.includeList with
  | error failure' =>
      have hno : ¬ ∀ p ∈ o.includeList, p.Compiles base := by
        intro hall
        obtain ⟨ms, hms, -⟩ := compileAll_of_compiles hall
        cases hin.symm.trans hms
      simp [hno, bind, Except.bind]
  | ok ms =>
      rw [or_iff_right (by simp), and_iff_right (compiles_of_compileAll hin)]
      cases compileAll (directory base) o.excludeList <;>
        simp [bind, Except.bind, pure, Except.pure]

/-- A filter is built if all patterns compile, and lets pass what they do. -/
theorem build_of_compiles {o : Options} {base : String}
    (h : ∀ p ∈ o.patterns, p.Compiles base) :
    ∃ f, build o base = .ok f ∧ ∀ id, f.accepts id = true ↔ o.Passes base id := by
  obtain ⟨hincludes, hexcludes⟩ := List.forall_mem_append.mp h
  obtain ⟨ms, hms, hlen, hin⟩ := compileAll_of_compiles hincludes
  obtain ⟨ns, hns, -, hex⟩ := compileAll_of_compiles hexcludes
  refine ⟨⟨ms, ns⟩, ?_, accepts_iff_of_alike hlen hin hex⟩
  rw [build_eq, hms, hns]
  rfl

theorem build_ok_iff {o : Options} {base : String} :
    (∃ f, build o base = .ok f) ↔ ∀ p ∈ o.patterns, p.Compiles base := by
  constructor
  · rintro ⟨f, hf⟩
    by_contra hno
    obtain ⟨failure, hfailure⟩ := FirstFails.exists_failure (by simpa using hno)
    cases hf.symm.trans (build_eq_error_iff.mpr hfailure)
  · intro h
    obtain ⟨f, hf, -⟩ := build_of_compiles h
    exact ⟨f, hf⟩

theorem accepts_iff_passes {o : Options} {base : String} {f : Filter} (h : build o base = .ok f)
    (id : String) : f.accepts id = true ↔ o.Passes base id := by
  obtain ⟨f', hf, hid⟩ := build_of_compiles (build_ok_iff.mp ⟨f, h⟩)
  obtain rfl := Except.ok.inj (hf.symm.trans h)
  exact hid id

/-! ### The main statement -/

/-- What building a filter from options comes to, and what it does not depend on. -/
structure Exact (o : Options) (base : String) : Prop where
  /-- The default lists always compile. -/
  defaults : ∀ t ∈ defaultIncludes ++ defaultExcludes, (FilterPattern.regex t).Compiles base
  /-- A pattern is reported if the first one that does not compile, includes before excludes, is
  malformed, and only then. -/
  reports : (∃ fault, build o base = .error (.invalid fault)) ↔
    FirstFails base (·.Malformed base) o.patterns
  /-- It is this pattern, and it is named by the text that was given. -/
  named : ∀ fault, build o base = .error (.invalid fault) →
    FirstFails base (fun p => p.Malformed base ∧ fault.pattern = p.text ∧
      p.compile (directory base) = .error (.invalid fault)) o.patterns
  /-- The program stops if the first one is a glob that exceeds a limit, and only then. -/
  crashes : (∃ e, build o base = .error (.crash e)) ↔
    FirstFails base (·.Exceeds base) o.patterns
  /-- So if no glob exceeds a limit, some pattern is reported whenever one does not compile. -/
  fails : (∀ p ∈ o.patterns, ¬ p.Exceeds base) →
    ((∃ fault, build o base = .error (.invalid fault)) ↔ ∃ p ∈ o.patterns, ¬ p.Compiles base)
  /-- If all compile the filter accepts the ids that no exclude pattern matches and some include
  pattern does, unless the include list is given and empty. -/
  verdict : (∀ p ∈ o.patterns, p.Compiles base) →
    ∃ f, build o base = .ok f ∧ ∀ id, f.accepts id = true ↔
      (∀ p ∈ o.excludeList, ¬ p.Matches base id) ∧
        (o.includes = some [] ∨ ∃ p ∈ o.includeList, p.Matches base id)
  /-- The order of the patterns of a list and their repetitions make no difference. -/
  reordered : ∀ o' f, o.SameMembers o' → build o base = .ok f →
    ∃ f', build o' base = .ok f' ∧ ∀ id, f'.accepts id = f.accepts id
  /-- More excludes accept nothing more. -/
  excluding : ∀ o' f f', o'.includes = o.includes → o.excludeList ⊆ o'.excludeList →
    build o base = .ok f → build o' base = .ok f' →
      ∀ id, f'.accepts id = true → f.accepts id = true
  /-- More includes reject nothing more, if there were some. -/
  including : ∀ o' f f', o.includeList ≠ [] → o.includeList ⊆ o'.includeList →
    o'.excludes = o.excludes → build o base = .ok f → build o' base = .ok f' →
      ∀ id, f.accepts id = true → f'.accepts id = true

/-- Of three patterns that do not compile the first one is named, by its own text. -/
example : (match build ⟨some [.glob "src/*.ts", .glob "a[b", .regex "("], some [.regex "["]⟩ "C:\\p"
    with
    | .error (.invalid fault) => fault.pattern == "a[b"
    | _ => false) = true := by
  decide +kernel

end Filter
end ScopedStyles
