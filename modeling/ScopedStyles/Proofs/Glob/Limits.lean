import ScopedStyles.Glob.Limits
import ScopedStyles.Proofs.Glob.Reading

/-! # How deep globs nest

The nesting of a glob is that of its deepest part, and one level more for the glob itself
(`nesting_eq`).  Literal text in front of a glob makes no difference to whether it nests too deep
(`nestLimit_lt_nesting_literally_append_iff`), but every pair of braces around it does
(`outline_braces`), and braces can be read however many there are (`parse_braced`). -/

namespace ScopedStyles.Glob

open Regex (nestLimit)

theorem depth_append (o p : Outline) : (o.append p).depth = max o.depth p.depth := rfl

theorem depth_rowOutline_append (ps qs : List Part) : (Part.rowOutline (ps ++ qs)).depth =
    max (Part.rowOutline ps).depth (Part.rowOutline qs).depth := by
  induction ps with
  | nil => simp [Part.rowOutline, Outline.empty]
  | cons p ps ih =>
      rw [List.cons_append, Part.rowOutline, Part.rowOutline, depth_append, depth_append, ih,
        Nat.max_assoc]

theorem nesting_eq {ps : List Part} (h : ps ≠ [.leading]) :
    nesting ps = (Part.rowOutline ps).depth + 1 := by
  unfold nesting
  split
  · exact absurd rfl h
  · simp only [Outline.levels, Outline.append, Outline.flat, Nat.zero_max]
    rw [if_pos (by omega)]

theorem excess?_eq_nesting_iff {ps : List Part} :
    excess? ps = some .nesting ↔ nestLimit < nesting ps := by
  unfold excess?
  split
  · simp [*]
  · split <;> simp [*]

/-! ### Literal text -/

theorem depth_literally_le (c : Char) : (Part.outline (literally c)).depth ≤ 1 := by
  unfold literally
  split
  · rename_i hc
    simp only [isSpecial, Bool.or_eq_true, decide_eq_true_eq] at hc
    rcases hc with ((((rfl | rfl) | rfl) | rfl) | rfl) | rfl <;> decide
  · exact Nat.zero_le _

theorem depth_rowOutline_literally_le (s : List Char) :
    (Part.rowOutline (s.map literally)).depth ≤ 1 := by
  induction s with
  | nil => exact Nat.zero_le _
  | cons c s ih =>
      rw [List.map_cons, Part.rowOutline, depth_append]
      exact Nat.max_le.mpr ⟨depth_literally_le c, ih⟩

/-- Behind literal text a glob nests too deep only if it does so alone. -/
theorem nestLimit_lt_nesting_literally_append_iff {s : List Char} {ps : List Part} (hs : s ≠ [])
    (hps : ps ≠ [.leading]) :
    nestLimit < nesting (s.map literally ++ ps) ↔ nestLimit < nesting ps := by
  have hlit := depth_rowOutline_literally_le s
  rw [nesting_eq (literally_append_ne_leading hs ps), nesting_eq hps, depth_rowOutline_append]
  unfold nestLimit
  omega

/-! ### Braces -/

/-- The letter `a` in `n` pairs of braces, and what follows. -/
def braced : Nat → List Char → List Char
  | 0, rest => 'a' :: rest
  | n + 1, rest => '\x7b' :: braced n ('\x7d' :: rest)

/-- What the letter in its braces is read as. -/
def braces : Nat → Part
  | 0 => .literal 'a'
  | n + 1 => .choice [[braces n]]

theorem reads_braced {n : Nat} {frames : List Frame} {parts ps : List Part} {prev : Option Char}
    {rest : List Char} (h : ∀ prev', State.Reads ⟨frames, braces n :: parts, prev'⟩ rest ps) :
    State.Reads ⟨frames, parts, prev⟩ (braced n rest) ps := by
  induction n generalizing frames parts prev rest with
  | zero => exact .step (.add (.plain rest (by decide))) (h _)
  | succ n ih =>
      refine .step (.enter _) (ih fun prev' => ?_)
      exact .step (.leave rest rfl) (h _)

theorem parse_braced (n : Nat) : parse (braced n []) = .ok [braces n] :=
  parse_eq_ok_iff.mpr (reads_braced fun _ => .done rfl)

/-- Every pair of braces is a level. -/
theorem outline_braces (n : Nat) : Part.outline (braces n) = ⟨1, n⟩ := by
  induction n with
  | zero => rfl
  | succ n ih =>
      simp [braces, Part.outline, Part.alternativeOutlines, Part.rowOutline, ih, Outline.append,
        Outline.empty, Outline.group, Outline.levels]

theorem braces_ne_leading (n : Nat) : [braces n] ≠ [.leading] := by
  cases n <;> nofun

theorem nesting_braces (n : Nat) : nesting [braces n] = n + 1 := by
  rw [nesting_eq (braces_ne_leading n), Part.rowOutline, outline_braces, depth_append]
  exact congrArg (· + 1) (Nat.max_zero n)

end ScopedStyles.Glob
