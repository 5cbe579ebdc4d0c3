import ScopedStyles.Proofs.Glob.Rows

/-! # Patterns that stand for words

Many patterns stand for a few fixed texts, which may have to be the last of the text that is
searched.  `words? e` lists these texts, and `spans_iff_words` says that the pattern spans them and
nothing else: a word has to stand at the place where the span begins, the span is as long as the
word, and nothing follows a word that is a last one.

So such a pattern matches a text exactly if one of its words stands in it
(`matchesSomewhere_iff_words`), which is a statement about texts alone. -/

namespace ScopedStyles.Pattern

/-! ### Words -/

/-- A text that a pattern stands for; nothing may follow it if it is a last one. -/
structure Word where
  codes : List Nat
  isLast : Bool
deriving DecidableEq, Repr

namespace Word

/-- The word stands in a text from the position `i` to the position `j`. -/
def Spans (text : List Nat) (w : Word) (i j : Nat) : Prop :=
  w.codes <+: text.drop i ∧ j = i + w.codes.length ∧ (w.isLast = true → j = text.length)

/-- The word stands somewhere in a text. -/
def StandsIn (text : List Nat) (w : Word) : Prop :=
  ∃ u v, text = u ++ w.codes ++ v ∧ (w.isLast = true → v = [])

def blank : Word := ⟨[], false⟩

/-- A word with another one behind it; behind a last one there is nothing. -/
def followedBy? : Word → Word → Option Word
  | ⟨cs, false⟩, ⟨ds, isLast⟩ => some ⟨cs ++ ds, isLast⟩
  | ⟨cs, true⟩, ⟨[], _⟩ => some ⟨cs, true⟩
  | ⟨_, true⟩, ⟨_ :: _, _⟩ => none

theorem spans_blank_iff {text : List Nat} {i j : Nat} : blank.Spans text i j ↔ i = j := by
  simp [Spans, blank, eq_comm]

theorem spans_followedBy_iff {text : List Nat} {v w : Word} {i j : Nat} :
    (∃ k, v.Spans text i k ∧ w.Spans text k j) ↔
      ∃ u, v.followedBy? w = some u ∧ u.Spans text i j := by
  obtain ⟨cs, isLast⟩ := v
  obtain ⟨ds, isLast'⟩ := w
  cases isLast with
  | false =>
      have hparts : cs ++ ds <+: text.drop i ↔ _ := Glob.append_prefix_drop_iff
      simp only [followedBy?, Option.some.injEq, exists_eq_left', Spans, List.length_append, hparts,
        Bool.false_eq_true, false_implies, and_true]
      constructor
      · rintro ⟨k, ⟨hc, rfl⟩, hd, rfl, hl⟩
        exact ⟨⟨hc, hd⟩, Nat.add_assoc .., hl⟩
      · rintro ⟨⟨hc, hd⟩, rfl, hl⟩
        exact ⟨_, ⟨hc, rfl⟩, hd, (Nat.add_assoc ..).symm, hl⟩
  | true =>
      cases ds with
      | nil =>
          simp only [followedBy?, Option.some.injEq, exists_eq_left', Spans, List.length_nil,
            Nat.add_zero, List.nil_prefix, true_and, true_implies]
          constructor
          · rintro ⟨k, ⟨hc, hk, hlen⟩, rfl, -⟩
            exact ⟨hc, hk, hlen⟩
          · rintro ⟨hc, hj, hlen⟩
            exact ⟨j, ⟨hc, hj, hlen⟩, rfl, fun _ => hlen⟩
      | cons d ds =>
          -- There is no symbol left at the end of the text.
          simp only [followedBy?, reduceCtorEq, false_and, exists_false, iff_false]
          rintro ⟨k, ⟨-, -, hk⟩, hd, -, -⟩
          rw [hk rfl, List.drop_length] at hd
          exact absurd (List.prefix_nil.mp hd) (List.cons_ne_nil _ _)

theorem standsIn_iff_spans {text : List Nat} {w : Word} :
    w.StandsIn text ↔ ∃ i j, i ≤ text.length ∧ w.Spans text i j := by
  constructor
  · rintro ⟨u, v, rfl, hl⟩
    refine ⟨u.length, u.length + w.codes.length, by simp, ?_, rfl, fun h => ?_⟩
    · rw [List.append_assoc, List.drop_left]
      exact List.prefix_append _ _
    · rw [hl h]
      simp
  · rintro ⟨i, j, hi, ⟨v, hv⟩, rfl, hl⟩
    refine ⟨text.take i, v, ?_, fun h => ?_⟩
    · rw [List.append_assoc, hv, List.take_append_drop]
    · have hlen := congrArg List.length hv
      rw [List.length_append, List.length_drop] at hlen
      have hend := hl h
      exact List.length_eq_zero_iff.mp (by omega)

end Word

/-! ### Words one after another -/

/-- The words of one list, each with those of another one behind it. -/
def joined (vs ws : List Word) : List Word := vs.flatMap fun v => ws.filterMap v.followedBy?

/-- The words of a list, `n` of them one after another. -/
def powers (ws : List Word) : Nat → List Word
  | 0 => [.blank]
  | n + 1 => joined ws (powers ws n)

theorem exists_mem_joined_iff {text : List Nat} {vs ws : List Word} {i j : Nat} :
    (∃ u ∈ joined vs ws, u.Spans text i j) ↔
      ∃ k, (∃ v ∈ vs, v.Spans text i k) ∧ ∃ w ∈ ws, w.Spans text k j := by
  unfold joined
  constructor
  · rintro ⟨u, hu, hspan⟩
    obtain ⟨v, hv, hu⟩ := List.mem_flatMap.mp hu
    obtain ⟨w, hw, hvw⟩ := List.mem_filterMap.mp hu
    obtain ⟨k, hk, hj⟩ := Word.spans_followedBy_iff.mpr ⟨u, hvw, hspan⟩
    exact ⟨k, ⟨v, hv, hk⟩, w, hw, hj⟩
  · rintro ⟨k, ⟨v, hv, hk⟩, w, hw, hj⟩
    obtain ⟨u, hvw, hspan⟩ := Word.spans_followedBy_iff.mp ⟨k, hk, hj⟩
    exact ⟨u, List.mem_flatMap.mpr ⟨v, hv, List.mem_filterMap.mpr ⟨w, hw, hvw⟩⟩, hspan⟩

theorem times_iff_powers {text : List Nat} {R : Nat → Nat → Prop} {ws : List Word}
    (h : ∀ i j, R i j ↔ ∃ w ∈ ws, w.Spans text i j) (n i j : Nat) :
    Times R n i j ↔ ∃ w ∈ powers ws n, w.Spans text i j := by
  induction n generalizing i with
  | zero => simp [Times, powers, Word.spans_blank_iff]
  | succ n ih => simp only [Times, powers, exists_mem_joined_iff, h, ih]

/-! ### The words of a pattern -/

def members (s : CodeSet) : List Nat := s.ranges.flatMap fun r => List.range' r.lo r.size

/-- The words that a pattern stands for, if it stands for words: it must not ask for more than the
end of the text, and must not repeat anything without a limit. -/
def words? : Pattern → Option (List Word)
  | .empty => some [.blank]
  | .atom (.set s) => some ((members s).map fun c => ⟨[c], false⟩)
  | .atom (.look .textStop) => some [⟨[], true⟩]
  | .atom (.look _) => none
  | .cat e f => do return joined (← words? e) (← words? f)
  | .alt e f => do return (← words? e) ++ (← words? f)
  | .repeated _ none _ => none
  | .repeated lo (some hi) e => do
      let ws ← words? e
      return (List.range (hi - lo + 1)).flatMap fun n => powers ws (lo + n)

theorem mem_members {s : CodeSet} {c : Nat} : c ∈ members s ↔ s.contains c = true := by
  simp only [members, CodeSet.contains, List.mem_flatMap, List.mem_range'_1, List.any_eq_true,
    Range.contains, Range.size, Bool.and_eq_true, decide_eq_true_eq]
  refine exists_congr fun r => and_congr_right fun _ => ?_
  omega

theorem spans_set_iff {text : List Nat} {s : CodeSet} {i j : Nat} :
    (Atom.set s).Spans text i j ↔
      ∃ w ∈ (members s).map fun c => (⟨[c], false⟩ : Word), w.Spans text i j := by
  simp only [List.mem_map, mem_members, exists_exists_and_eq_and, Word.Spans,
    Glob.singleton_prefix_drop_iff, List.length_singleton, Bool.false_eq_true, false_implies,
    and_true, Atom.Spans]
  constructor
  · rintro ⟨⟨c, hi, hc⟩, rfl⟩
    exact ⟨c, hc, hi, rfl⟩
  · rintro ⟨c, hc, hi, rfl⟩
    exact ⟨⟨c, hi, hc⟩, rfl⟩

theorem spans_textStop_iff {text : List Nat} {i j : Nat} :
    (Atom.look .textStop).Spans text i j ↔ (⟨[], true⟩ : Word).Spans text i j := by
  simp only [Atom.Spans, Look.holds, Option.isNone_iff_eq_none, List.getElem?_eq_none_iff,
    Word.Spans, List.nil_prefix, List.length_nil, Nat.add_zero, true_and, true_implies]
  omega

/-- A pattern spans its words and nothing else. -/
theorem spans_iff_words {text : List Nat} {e : Pattern} : ∀ {ws : List Word}, words? e = some ws →
    ∀ i j, Spans text e i j ↔ ∃ w ∈ ws, w.Spans text i j := by
  induction e with
  | empty =>
      intro ws h i j
      cases h
      simp [Spans, Word.spans_blank_iff]
  | atom a =>
      intro ws h i j
      cases a with
      | set s =>
          cases h
          exact spans_set_iff
      | look l =>
          cases l with
          | textStop =>
              cases h
              simpa [Spans] using spans_textStop_iff
          | _ => cases h
  | cat e f ihe ihf =>
      intro ws h i j
      obtain ⟨vs, hvs, h⟩ := Option.bind_eq_some_iff.mp h
      obtain ⟨us, hus, h⟩ := Option.bind_eq_some_iff.mp h
      cases h
      simp only [Spans, ihe hvs, ihf hus, exists_mem_joined_iff]
  | alt e f ihe ihf =>
      intro ws h i j
      obtain ⟨vs, hvs, h⟩ := Option.bind_eq_some_iff.mp h
      obtain ⟨us, hus, h⟩ := Option.bind_eq_some_iff.mp h
      cases h
      simp only [Spans, ihe hvs, ihf hus, List.mem_append, or_and_right, exists_or]
  | repeated lo hi e ih =>
      intro ws h i j
      cases hi with
      | none => cases h
      | some hi =>
          obtain ⟨vs, hvs, h⟩ := Option.bind_eq_some_iff.mp h
          cases h
          have htimes (n : Nat) := times_iff_powers (ih hvs) (lo + n) i j
          simp only [Spans, htimes, List.mem_flatMap, List.mem_range]
          constructor
          · rintro ⟨n, hn, w, hw, hspan⟩
            have hle := hn hi rfl
            exact ⟨w, ⟨n, by omega, hw⟩, hspan⟩
          · rintro ⟨w, ⟨n, hn, hw⟩, hspan⟩
            refine ⟨n, fun h' he => ?_, w, hw, hspan⟩
            obtain rfl := Option.some.inj he
            omega

/-- A pattern that stands for words matches the texts in which one of them stands. -/
theorem matchesSomewhere_iff_words {e : Pattern} {ws : List Word} (h : words? e = some ws)
    {text : List Nat} : matchesSomewhere e text = true ↔ ∃ w ∈ ws, w.StandsIn text := by
  rw [matchesSomewhere_iff_spans]
  simp only [Word.standsIn_iff_spans, spans_iff_words h]
  constructor
  · rintro ⟨i, j, hi, w, hw, hspan⟩
    exact ⟨w, hw, i, j, hi, hspan⟩
  · rintro ⟨w, hw, i, j, hi, hspan⟩
    exact ⟨i, j, hi, w, hw, hspan⟩

end ScopedStyles.Pattern
