import ScopedStyles.Filter
import ScopedStyles.Proofs.Glob.Limits
import ScopedStyles.Proofs.Glob.Rows

/-! # Anchored globs

A relative glob in the include list accepts the files below the base directory whose path from there
it matches, whatever the characters of the base; a glob that starts with a slash or with two stars
does not know the base (`Filter.anchoring_exact`).  The base can make a glob too big, but not too
deep. -/

namespace ScopedStyles

namespace Glob

/-! ### The base and the relative glob -/

/-- The base names the directory `B`: with slashes for backslashes, and without those at its end. -/
structure Names (base : String) (B : List Char) : Prop where
  nonempty : base ≠ ""
  slashes : ∃ n, slashed base.toList = B ++ List.replicate n '/'
  trimmed : B.getLast? ≠ some '/'

/-- The glob is `g'` behind one `./`, or it is `g'` and starts with none. -/
def IsRelative (g g' : List Char) : Prop :=
  g = ['.', '/'] ++ g' ∨ ¬ ['.', '/'] <+: g ∧ g = g'

/-- A glob that is matched as it is, whatever the base. -/
def Fixed (g : List Char) : Prop := ['/'] <+: g ∨ ['*', '*'] <+: g

theorem isAnchored_iff {g : List Char} : isAnchored g = true ↔ Fixed g := by
  constructor
  · intro h
    unfold isAnchored at h
    split at h
    · exact .inl ⟨_, rfl⟩
    · exact .inr ⟨_, rfl⟩
    · cases h
  · rintro (⟨r, rfl⟩ | ⟨r, rfl⟩) <;> rfl

theorem anchor_of_fixed {g : List Char} (hg : Fixed g) (base : List Char) :
    anchor base g = g := by
  unfold anchor
  rw [isAnchored_iff.mpr hg, Bool.or_true]
  rfl

theorem IsRelative.eq {g g' : List Char} (h : IsRelative g g') : relative g = g' := by
  obtain rfl | ⟨hno, rfl⟩ := h
  · rfl
  · unfold relative
    split
    · exact absurd ⟨_, rfl⟩ hno
    · rfl

theorem not_mem_slashed (s : List Char) : '\\' ∉ slashed s := by
  intro h
  obtain ⟨c, -, hc⟩ := List.mem_map.mp h
  split at hc
  · cases hc
  · exact absurd hc ‹_›

theorem trimSlashes_append_replicate {B : List Char} (hB : B.getLast? ≠ some '/') (n : Nat) :
    trimSlashes (B ++ List.replicate n '/') = B := by
  unfold trimSlashes
  rw [List.reverse_append, List.reverse_replicate, List.dropWhile_append_of_pos (by simp)]
  have hkeep : B.reverse.dropWhile (· = '/') = B.reverse := by
    cases h : B.reverse with
    | nil => rfl
    | cons c cs =>
        rw [List.dropWhile_cons_of_neg]
        rw [List.getLast?_eq_head?_reverse, h] at hB
        simpa using hB
  rw [hkeep, List.reverse_reverse]

theorem anchor_of_relative {base : String} {B g g' : List Char} (hB : Names base B)
    (hg : ¬ Fixed g) (hrel : IsRelative g g') :
    anchor (slashed base.toList) g = escape B ++ '/' :: g' := by
  obtain ⟨n, hn⟩ := hB.slashes
  have hne : (slashed base.toList).isEmpty = false := by
    simpa [slashed] using hB.nonempty
  rw [← isAnchored_iff, Bool.not_eq_true] at hg
  unfold anchor
  rw [hne, hg, hrel.eq, hn, trimSlashes_append_replicate hB.trimmed]
  rfl

theorem Names.not_mem {base : String} {B : List Char} (hB : Names base B) : '\\' ∉ B := by
  obtain ⟨n, hn⟩ := hB.slashes
  exact fun h => not_mem_slashed base.toList (hn ▸ List.mem_append_left _ h)

/-- Parts below a directory that is taken literally. -/
def below (B : List Char) (ps : List Part) : List Part := (B ++ ['/']).map literally ++ ps

section below

variable {base : String} {B g g' : List Char} {ps : List Part}

/-- A relative glob, anchored at a base, is read as the glob alone below the base. -/
theorem parse_anchor (hB : Names base B) (hg : ¬ Fixed g) (hrel : IsRelative g g')
    (hps : parse g' = .ok ps) (hstars : ¬ ['*', '*'] <+: g') :
    parse (anchor (slashed base.toList) g) = .ok (below B ps) ∧ ps ≠ [.leading] := by
  obtain ⟨hparse, hne⟩ := parse_below hB.not_mem hps fun r hr => hstars ⟨r, hr.symm⟩
  rw [anchor_of_relative hB hg hrel]
  refine ⟨?_, hne⟩
  simpa [below, literally, isSpecial] using hparse

theorem matchesText_below_iff (hps : ps ≠ [.leading]) {t : List Char} :
    matchesText (below B ps) t = true ↔ ∃ r, t = B ++ '/' :: r ∧ matchesText ps r = true := by
  unfold below
  rw [matchesText_literally_append_iff (by simp) hps]
  simp only [List.append_assoc, List.singleton_append]

theorem excess?_below_eq_nesting_iff (hps : ps ≠ [.leading]) :
    excess? (below B ps) = some .nesting ↔ excess? ps = some .nesting := by
  rw [excess?_eq_nesting_iff, excess?_eq_nesting_iff]
  exact nestLimit_lt_nesting_literally_append_iff (by simp) hps

end below

end Glob

namespace Filter

open Glob

/-! ### Filters with one glob -/

/-- The options with one include pattern, a glob, and no exclude pattern. -/
def onlyGlob (g : String) : Options := ⟨some [.glob g], some []⟩

theorem build_onlyGlob {g base : String} {ps : List Part}
    (h : parse (anchor (slashed base.toList) g.toList) = .ok ps) :
    build (onlyGlob g) base = match excess? ps with
      | none => .ok ⟨[.glob ps], []⟩
      | some e => .error (.crash e) := by
  simp only [build, onlyGlob, listOr, Option.getD_some, compileAll, FilterPattern.compile, h]
  cases excess? ps <;> rfl

theorem accepts_onlyGlob (ps : List Part) (id : String) :
    accepts ⟨[.glob ps], []⟩ id = matchesText ps (slashed id.toList) := by
  simp [accepts, Matcher.isMatch]

end Filter
end ScopedStyles
