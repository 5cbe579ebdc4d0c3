import Mathlib.Data.Finset.Card
import ScopedStyles.Pattern.Search

/-! # What patterns span

`Spans text e i j` says that the pattern `e` spans the part of a text from the position `i` to the
position `j`.  The matcher carries sets of positions along the pattern.  A function on such sets
carries along a relation (`Carries`) if it leads from a set to the positions that the relation leads
to from there; and every pattern's function carries along what the pattern spans (`carries_reach`),
so that a pattern matches a whole text exactly if it spans it from end to end
(`matchesWhole_iff_spans`).

The matcher repeats an expression no more often than there are positions.  That is enough: a set
that grows with every round is full by then, and one that stops growing grows no more
(`Carries.gather_most`). -/

namespace ScopedStyles.Pattern

/-! ### Spans -/

/-- `Times R k i j`: `k` steps of `R` lead from `i` to `j`. -/
def Times (R : Nat → Nat → Prop) : Nat → Nat → Nat → Prop
  | 0, i, j => i = j
  | k + 1, i, j => ∃ m, R i m ∧ Times R k m j

/-- The symbol before a position. -/
def symbolBefore (text : List Nat) : Nat → Option Nat
  | 0 => none
  | i + 1 => text[i]?

def Atom.Spans (text : List Nat) : Atom → Nat → Nat → Prop
  | set s, i, j => (∃ c, text[i]? = some c ∧ s.contains c = true) ∧ j = i + 1
  | look l, i, j => (i ≤ text.length ∧ l.holds (symbolBefore text i) text[i]? = true) ∧ j = i

def Spans (text : List Nat) : Pattern → Nat → Nat → Prop
  | .empty, i, j => i = j
  | .atom a, i, j => a.Spans text i j
  | .cat e f, i, j => ∃ k, Spans text e i k ∧ Spans text f k j
  | .alt e f, i, j => Spans text e i j ∨ Spans text f i j
  | .repeated lo hi e, i, j =>
      ∃ n, (∀ h, hi = some h → n ≤ h - lo) ∧ Times (Spans text e) (lo + n) i j

theorem Times.add_iff {R : Nat → Nat → Prop} {k n i j : Nat} :
    Times R (k + n) i j ↔ ∃ m, Times R k i m ∧ Times R n m j := by
  induction k generalizing i with
  | zero => simp [Times]
  | succ k ih =>
      rw [Nat.succ_add]
      simp only [Times, ih]
      constructor
      · rintro ⟨l, hl, m, hm, hj⟩
        exact ⟨m, ⟨l, hl, hm⟩, hj⟩
      · rintro ⟨m, ⟨l, hl, hm⟩, hj⟩
        exact ⟨l, hl, m, hm, hj⟩

theorem Times.stay_iff {R : Nat → Nat → Prop} {n i j : Nat} :
    Times (fun i j => i = j ∨ R i j) n i j ↔ ∃ k ≤ n, Times R k i j := by
  induction n generalizing i with
  | zero => simp [Times]
  | succ n ih =>
      simp only [Times, ih]
      constructor
      · rintro ⟨m, rfl | hm, k, hk, hj⟩
        · exact ⟨k, hk.trans n.le_succ, hj⟩
        · exact ⟨k + 1, Nat.succ_le_succ hk, m, hm, hj⟩
      · rintro ⟨_ | k, hk, hj⟩
        · exact ⟨i, .inl rfl, 0, Nat.zero_le n, hj⟩
        · obtain ⟨m, hm, hj⟩ := hj
          exact ⟨m, .inr hm, k, Nat.le_of_succ_le_succ hk, hj⟩

/-! ### Sets of positions -/

/-- All positions of a set are below `most`. -/
def Within (most p : Nat) : Prop := ∀ j, p.testBit j = true → j < most

/-- `f` leads from a set of positions to those that `R` leads to from there. -/
structure Carries (most : Nat) (f : Nat → Nat) (R : Nat → Nat → Prop) : Prop where
  within : ∀ {p}, Within most p → Within most (f p)
  testBit_iff : ∀ {p}, Within most p → ∀ j, (f p).testBit j = true ↔ ∃ i, p.testBit i = true ∧ R i j

namespace Carries

variable {most : Nat} {f g : Nat → Nat} {R Q : Nat → Nat → Prop}

theorem id : Carries most (fun p => p) (fun i j => i = j) where
  within hp := hp
  testBit_iff _ j := by simp

theorem comp (hf : Carries most f R) (hg : Carries most g Q) :
    Carries most (fun p => g (f p)) (fun i j => ∃ k, R i k ∧ Q k j) where
  within hp := hg.within (hf.within hp)
  testBit_iff {p} hp j := by
    rw [hg.testBit_iff (hf.within hp)]
    simp only [hf.testBit_iff hp]
    constructor
    · rintro ⟨k, ⟨i, hi, hk⟩, hj⟩
      exact ⟨i, hi, k, hk, hj⟩
    · rintro ⟨i, hi, k, hk, hj⟩
      exact ⟨k, ⟨i, hi, hk⟩, hj⟩

theorem or (hf : Carries most f R) (hg : Carries most g Q) :
    Carries most (fun p => f p ||| g p) (fun i j => R i j ∨ Q i j) where
  within hp j hj := by
    rw [Nat.testBit_or, Bool.or_eq_true] at hj
    exact hj.elim (hf.within hp j) (hg.within hp j)
  testBit_iff {p} hp j := by
    rw [Nat.testBit_or, Bool.or_eq_true, hf.testBit_iff hp, hg.testBit_iff hp, ← exists_or]
    simp only [and_or_left]

theorem iterate_fun (hf : Carries most f R) : ∀ n, Carries most f^[n] (Times R n)
  | 0 => id
  | n + 1 => hf.comp (hf.iterate_fun n)

end Carries

/-! ### Repetition -/

/-- Stopping early makes no difference: from there on nothing changes. -/
theorem iterate_eq (f : Nat → Nat) (n p : Nat) : iterate f n p = f^[n] p := by
  induction n generalizing p with
  | zero => rfl
  | succ n ih =>
      rw [iterate]
      by_cases h : f p = p
      · rw [if_pos h, Function.iterate_fixed h]
      · rw [if_neg h, ih, Function.iterate_succ_apply]

theorem gather_eq_iterate (f : Nat → Nat) (n p : Nat) :
    gather f n p = iterate (fun p => p ||| f p) n p := by
  induction n generalizing p with
  | zero => rfl
  | succ n ih => simp only [gather, iterate, ih]

theorem Carries.iterate {most : Nat} {f : Nat → Nat} {R : Nat → Nat → Prop}
    (hf : Carries most f R) (n : Nat) : Carries most (iterate f n) (Times R n) := by
  rw [show Pattern.iterate f n = f^[n] from funext (iterate_eq f n)]
  exact hf.iterate_fun n

theorem Carries.gather {most : Nat} {f : Nat → Nat} {R : Nat → Nat → Prop}
    (hf : Carries most f R) (n : Nat) :
    Carries most (gather f n) (fun i j => ∃ k ≤ n, Times R k i j) := by
  rw [show Pattern.gather f n = Pattern.iterate _ n from funext (gather_eq_iterate f n)]
  simp only [← Times.stay_iff]
  exact (Carries.id.or hf).iterate n

/-! ### Repetition without a limit -/

def positions (most p : Nat) : Finset Nat := (Finset.range most).filter fun i => p.testBit i = true

theorem mem_positions {most p : Nat} (hp : Within most p) {i : Nat} :
    i ∈ positions most p ↔ p.testBit i = true := by
  unfold positions
  rw [Finset.mem_filter, Finset.mem_range]
  exact ⟨And.right, fun hi => ⟨hp i hi, hi⟩⟩

theorem eq_of_positions {most p q : Nat} (hp : Within most p) (hq : Within most q)
    (h : positions most p = positions most q) : p = q := by
  refine Nat.eq_of_testBit_eq fun i => Bool.eq_iff_iff.mpr ?_
  rw [← mem_positions hp, ← mem_positions hq, h]

theorem positions_subset_or (most p q : Nat) : positions most p ⊆ positions most (p ||| q) := by
  refine Finset.monotone_filter_right _ fun i _ hi => ?_
  rw [Nat.testBit_or, hi, Bool.true_or]

/-- A set that grew in each of `n` rounds has `n` positions. -/
theorem Carries.grown_or_stable {most : Nat} {f : Nat → Nat} {R : Nat → Nat → Prop}
    (hf : Carries most f R) {p : Nat} (hp : Within most p) (n : Nat) :
    n ≤ (positions most (Pattern.gather f n p)).card ∨
      Pattern.gather f n p ||| f (Pattern.gather f n p) = Pattern.gather f n p := by
  have hstep (n : Nat) : Pattern.gather f (n + 1) p =
      Pattern.gather f n p ||| f (Pattern.gather f n p) := by
    simp only [gather_eq_iterate, iterate_eq, Function.iterate_succ_apply']
  induction n with
  | zero => exact .inl (Nat.zero_le _)
  | succ n ih =>
      by_cases hstable : Pattern.gather f n p ||| f (Pattern.gather f n p) = Pattern.gather f n p
      · exact .inr (by rw [hstep, hstable, hstable])
      · have hn := ih.resolve_right hstable
        have hq := (hf.gather n).within hp
        have hq' := (hf.gather (n + 1)).within hp
        rw [hstep] at hq' ⊢
        have hne : positions most (Pattern.gather f n p) ≠
            positions most (Pattern.gather f n p ||| f (Pattern.gather f n p)) :=
          fun he => hstable (eq_of_positions hq hq' he).symm
        have hlt := Finset.card_lt_card ((positions_subset_or _ _ _).ssubset_of_ne hne)
        exact .inl (by omega)

theorem Carries.gather_stable {most : Nat} {f : Nat → Nat} {R : Nat → Nat → Prop}
    (hf : Carries most f R) {p : Nat} (hp : Within most p) :
    Pattern.gather f most p ||| f (Pattern.gather f most p) = Pattern.gather f most p := by
  rcases hf.grown_or_stable hp most with hfull | hstable
  · have hq := (hf.gather most).within hp
    have hq' := (Carries.id.or hf).within hq
    have hall : positions most (Pattern.gather f most p) = Finset.range most :=
      Finset.eq_of_subset_of_card_le (Finset.filter_subset _ _) (by rwa [Finset.card_range])
    refine (eq_of_positions hq hq' (Finset.Subset.antisymm (positions_subset_or _ _ _) ?_)).symm
    rw [hall]
    exact Finset.filter_subset _ _
  · exact hstable

/-- As many rounds as there are positions are as good as any number. -/
theorem Carries.gather_most {most : Nat} {f : Nat → Nat} {R : Nat → Nat → Prop}
    (hf : Carries most f R) :
    Carries most (Pattern.gather f most) (fun i j => ∃ k, Times R k i j) where
  within := (hf.gather most).within
  testBit_iff {p} hp j := by
    have hgather := (hf.gather most).testBit_iff hp
    constructor
    · intro hj
      obtain ⟨i, hi, k, -, hk⟩ := (hgather j).mp hj
      exact ⟨i, hi, k, hk⟩
    · rintro ⟨i, hi, k, hk⟩
      have hi' : (Pattern.gather f most p).testBit i = true :=
        (hgather i).mpr ⟨i, hi, 0, Nat.zero_le _, rfl⟩
      -- The set that was gathered is closed under further steps.
      clear hi
      induction k generalizing i with
      | zero =>
          obtain rfl := hk
          exact hi'
      | succ k ih =>
          obtain ⟨m, hm, hk⟩ := hk
          refine ih m hk ?_
          rw [← hf.gather_stable hp, Nat.testBit_or,
            (hf.testBit_iff ((hf.gather most).within hp) m).mpr ⟨i, hi', hm⟩, Bool.or_true]

theorem Carries.gather_min {most : Nat} {f : Nat → Nat} {R : Nat → Nat → Prop}
    (hf : Carries most f R) (n : Nat) :
    Carries most (Pattern.gather f (min n most)) (fun i j => ∃ k ≤ n, Times R k i j) := by
  rcases Nat.le_total n most with hn | hn
  · rw [Nat.min_eq_left hn]
    exact hf.gather n
  · rw [Nat.min_eq_right hn]
    refine ⟨(hf.gather most).within, fun hp j => ⟨fun hj => ?_, fun hj => ?_⟩⟩
    · obtain ⟨i, hi, k, hk, hj⟩ := ((hf.gather most).testBit_iff hp j).mp hj
      exact ⟨i, hi, k, hk.trans hn, hj⟩
    · obtain ⟨i, hi, k, -, hj⟩ := hj
      exact (hf.gather_most.testBit_iff hp j).mpr ⟨i, hi, k, hj⟩

/-! ### Atoms -/

theorem testBit_digit_zero (b : Bool) (n : Nat) : (b.toNat + 2 * n).testBit 0 = b := by
  rw [Nat.testBit_zero]
  cases b <;> simp

theorem testBit_digit_succ (b : Bool) (n i : Nat) :
    (b.toNat + 2 * n).testBit (i + 1) = n.testBit i := by
  rw [Nat.testBit_succ]
  congr 1
  cases b <;> simp only [Bool.toNat_false, Bool.toNat_true] <;> omega

theorem testBit_setMask (s : CodeSet) (text : List Nat) (i : Nat) :
    (setMask s text).testBit i = true ↔ ∃ c, text[i]? = some c ∧ s.contains c = true := by
  induction text generalizing i with
  | nil => simp [setMask]
  | cons c text ih =>
      cases i with
      | zero =>
          rw [setMask, testBit_digit_zero]
          simp
      | succ i =>
          rw [setMask, testBit_digit_succ, ih]
          simp

/-- The mask of a condition, read with `before` as the symbol before the text. -/
theorem testBit_lookMask (l : Look) (before : Option Nat) (text : List Nat) (i : Nat) :
    (lookMask l before text).testBit i = true ↔
      i ≤ text.length ∧
        l.holds (if i = 0 then before else symbolBefore text i) text[i]? = true := by
  induction text generalizing before i with
  | nil =>
      cases i with
      | zero => cases h : l.holds before none <;> simp [lookMask, h]
      | succ i => cases h : l.holds before none <;> simp [lookMask, h, Nat.testBit_succ]
  | cons c text ih =>
      cases i with
      | zero =>
          rw [lookMask, testBit_digit_zero]
          simp
      | succ i =>
          rw [lookMask, testBit_digit_succ, ih]
          cases i <;> simp [symbolBefore]

/-! ### Patterns -/

theorem within_and {most p q : Nat} (hp : Within most p) : Within most (p &&& q) := by
  intro j hj
  rw [Nat.testBit_and, Bool.and_eq_true] at hj
  exact hp j hj.1

theorem testBit_double (p j : Nat) :
    (2 * p).testBit j = true ↔ ∃ i, p.testBit i = true ∧ j = i + 1 := by
  cases j with
  | zero => simp
  | succ j =>
      rw [Nat.testBit_succ, Nat.mul_div_cancel_left _ Nat.two_pos]
      simp

theorem carries_atom (text : List Nat) (a : Atom) :
    Carries (text.length + 1) (reach (text.length + 1) (.atom (a.hop text))) (a.Spans text) := by
  cases a with
  | set s =>
      refine ⟨fun {p} _ j hj => ?_, fun {p} _ j => ?_⟩
      · obtain ⟨i, hi, rfl⟩ := (testBit_double _ j).mp hj
        rw [Nat.testBit_and, Bool.and_eq_true, testBit_setMask] at hi
        obtain ⟨-, c, hc, -⟩ := hi
        obtain ⟨hi, -⟩ := List.getElem?_eq_some_iff.mp hc
        omega
      · refine (testBit_double _ j).trans ?_
        simp only [Nat.testBit_and, Bool.and_eq_true, testBit_setMask, Atom.Spans, and_assoc]
  | look l =>
      refine ⟨fun hp => within_and hp, fun {p} _ j => ?_⟩
      show (p &&& lookMask l none text).testBit j = true ↔ _
      rw [Nat.testBit_and, Bool.and_eq_true, testBit_lookMask]
      have hbefore : (if j = 0 then none else symbolBefore text j) = symbolBefore text j := by
        cases j <;> rfl
      rw [hbefore]
      constructor
      · exact fun ⟨hj, hl⟩ => ⟨j, hj, hl, rfl⟩
      · rintro ⟨i, hi, hl, rfl⟩
        exact ⟨hi, hl⟩

/-- The matcher leads from a set of positions to the ends of what the pattern spans from there. -/
theorem carries_reach (text : List Nat) (e : Pattern) :
    Carries (text.length + 1) (reach (text.length + 1) (e.map (Atom.hop text)))
      (Spans text e) := by
  induction e with
  | empty => exact .id
  | atom a => exact carries_atom text a
  | cat e f ihe ihf => exact ihe.comp ihf
  | alt e f ihe ihf => exact ihe.or ihf
  | repeated lo hi e ih =>
      have hrel (i j : Nat) : Spans text (.repeated lo hi e) i j ↔
          ∃ m, Times (Spans text e) lo i m ∧
            ∃ n, (∀ h, hi = some h → n ≤ h - lo) ∧ Times (Spans text e) n m j := by
        simp only [Spans, Times.add_iff]
        constructor
        · rintro ⟨n, hn, m, hm, hj⟩
          exact ⟨m, hm, n, hn, hj⟩
        · rintro ⟨m, hm, n, hn, hj⟩
          exact ⟨n, hn, m, hm, hj⟩
      rw [show Spans text (.repeated lo hi e) = _ from funext₂ fun i j => propext (hrel i j)]
      refine (ih.iterate lo).comp ?_
      cases hi with
      | none => simpa using ih.gather_most
      | some h => simpa using ih.gather_min (h - lo)

theorem matchesWhole_iff_spans {e : Pattern} {text : List Nat} :
    matchesWhole e text = true ↔ Spans text e 0 text.length := by
  have hone (i : Nat) : (1 : Nat).testBit i = true ↔ i = 0 := by
    cases i with
    | zero => simp
    | succ i => simp [Nat.testBit_succ]
  have hwithin : Within (text.length + 1) 1 := fun j hj => by
    rw [hone] at hj
    omega
  unfold matchesWhole stops
  rw [(carries_reach text e).testBit_iff hwithin]
  simp only [hone, exists_eq_left]

theorem matchesSomewhere_iff_spans {e : Pattern} {text : List Nat} :
    matchesSomewhere e text = true ↔ ∃ i j, i ≤ text.length ∧ Spans text e i j := by
  -- The search starts from all positions at once.
  have hall (i : Nat) : ((1 <<< (text.length + 1)) - 1).testBit i = true ↔ i < text.length + 1 := by
    rw [Nat.one_shiftLeft, Nat.testBit_two_pow_sub_one, decide_eq_true_eq]
  have hwithin : Within (text.length + 1) ((1 <<< (text.length + 1)) - 1) :=
    fun i hi => (hall i).mp hi
  have hstops (j : Nat) := (carries_reach text e).testBit_iff hwithin j
  simp only [hall, Nat.lt_succ_iff] at hstops
  unfold matchesSomewhere stops
  rw [decide_eq_true_eq]
  constructor
  · intro hne
    obtain ⟨j, hj⟩ := Nat.exists_testBit_of_ne_zero hne
    obtain ⟨i, hi, hij⟩ := (hstops j).mp hj
    exact ⟨i, j, hi, hij⟩
  · rintro ⟨i, j, hi, hij⟩ hzero
    have hj := (hstops j).mpr ⟨i, hi, hij⟩
    rw [hzero, Nat.zero_testBit] at hj
    cases hj

/-! ### The end of a text -/

/-- The pattern asks for symbols only, never for what stands next to a position. -/
def IsPlain : Pattern → Prop
  | .empty => True
  | .atom (.set _) => True
  | .atom (.look _) => False
  | .cat e f => IsPlain e ∧ IsPlain f
  | .alt e f => IsPlain e ∧ IsPlain f
  | .repeated _ _ e => IsPlain e

theorem Times.shift_iff {R Q : Nat → Nat → Prop} {n : Nat}
    (h : ∀ i j, R (n + i) j ↔ ∃ k, j = n + k ∧ Q i k) (m i j : Nat) :
    Times R m (n + i) j ↔ ∃ k, j = n + k ∧ Times Q m i k := by
  induction m generalizing i with
  | zero => simp [Times, eq_comm]
  | succ m ih =>
      simp only [Times, h]
      constructor
      · rintro ⟨_, ⟨l, rfl, hl⟩, hj⟩
        obtain ⟨k, rfl, hk⟩ := (ih l).mp hj
        exact ⟨k, rfl, l, hl, hk⟩
      · rintro ⟨k, rfl, l, hl, hk⟩
        exact ⟨n + l, ⟨l, rfl, hl⟩, (ih l).mpr ⟨k, rfl, hk⟩⟩

/-- What such a pattern spans does not depend on the text before. -/
theorem spans_append_iff {e : Pattern} (he : IsPlain e) (u v : List Nat) (i j : Nat) :
    Spans (u ++ v) e (u.length + i) j ↔ ∃ k, j = u.length + k ∧ Spans v e i k := by
  induction e generalizing i j with
  | empty => simp [Spans, eq_comm]
  | atom a =>
      cases a with
      | look l => exact he.elim
      | set s =>
          simp only [Spans, Atom.Spans]
          rw [List.getElem?_append_right (Nat.le_add_right _ _), Nat.add_sub_cancel_left]
          constructor
          · rintro ⟨hc, rfl⟩
            exact ⟨i + 1, Nat.add_assoc _ _ _, hc, rfl⟩
          · rintro ⟨_, rfl, hc, rfl⟩
            exact ⟨hc, (Nat.add_assoc _ _ _).symm⟩
  | cat e f ihe ihf =>
      simp only [Spans, ihe he.1]
      constructor
      · rintro ⟨_, ⟨l, rfl, hl⟩, hj⟩
        obtain ⟨k, rfl, hk⟩ := (ihf he.2 l j).mp hj
        exact ⟨k, rfl, l, hl, hk⟩
      · rintro ⟨k, rfl, l, hl, hk⟩
        exact ⟨u.length + l, ⟨l, rfl, hl⟩, (ihf he.2 l _).mpr ⟨k, rfl, hk⟩⟩
  | alt e f ihe ihf =>
      simp only [Spans, ihe he.1, ihf he.2, ← exists_or, and_or_left]
  | repeated lo hi e ih =>
      simp only [Spans, Times.shift_iff (ih he)]
      constructor
      · rintro ⟨n, hn, k, rfl, hk⟩
        exact ⟨k, rfl, n, hn, hk⟩
      · rintro ⟨k, rfl, n, hn, hk⟩
        exact ⟨n, hn, k, rfl, hk⟩

end ScopedStyles.Pattern
