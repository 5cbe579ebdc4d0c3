import ScopedStyles.Glob.Meaning
import ScopedStyles.Proofs.Glob.Reading
import ScopedStyles.Proofs.Pattern

/-! # Parts in a row

A row of parts spans what its parts span one after another (`spans_row_append_iff`), and escaped
characters span their own bytes (`spans_row_literally_iff`).  No part asks what stands before it, so
that behind a text that is taken literally a row matches what it matches alone
(`matchesText_literally_append_iff`). -/

namespace ScopedStyles.Glob

open Pattern (Spans IsPlain)

/-! ### Rows -/

/-- The pattern of parts in a row. -/
def row (ps : List Part) : Pattern := (Part.rowExpr? ps).getD .empty

theorem spans_row_cons_iff {text : List Nat} {p : Part} {ps : List Part} {i j : Nat} :
    Spans text (row (p :: ps)) i j ↔ ∃ k, Spans text (row [p]) i k ∧ Spans text (row ps) k j := by
  unfold row
  simp only [Part.rowExpr?]
  cases Part.expr? p <;> cases Part.rowExpr? ps <;> simp [Spans]

theorem spans_row_append_iff {text : List Nat} {ps qs : List Part} {i j : Nat} :
    Spans text (row (ps ++ qs)) i j ↔ ∃ k, Spans text (row ps) i k ∧ Spans text (row qs) k j := by
  induction ps generalizing i with
  | nil => simp [row, Part.rowExpr?, Spans]
  | cons p ps ih =>
      have hp (k : Nat) : Spans text (row (p :: ps)) i k ↔ _ := spans_row_cons_iff
      rw [List.cons_append, spans_row_cons_iff]
      simp only [ih, hp]
      constructor
      · rintro ⟨l, hl, k, hk, hj⟩
        exact ⟨k, ⟨l, hl, hk⟩, hj⟩
      · rintro ⟨k, ⟨l, hl, hk⟩, hj⟩
        exact ⟨l, hl, k, hk, hj⟩

/-! ### Parts are plain -/

theorem isPlain_cats : ∀ {es : List Pattern}, (∀ e ∈ es, IsPlain e) → IsPlain (Pattern.Expr.cats es)
  | [], _ => trivial
  | [e], h => h e List.mem_cons_self
  | e :: _ :: _, h =>
      ⟨h e List.mem_cons_self, isPlain_cats fun e' he' => h e' (List.mem_cons_of_mem _ he')⟩

theorem isPlain_anyOf {es : List Pattern} : ∀ {e : Pattern}, IsPlain e → (∀ e ∈ es, IsPlain e) →
    IsPlain (anyOf e es) := by
  induction es with
  | nil => exact fun he _ => he
  | cons f es ih =>
      intro e he h
      rw [List.forall_mem_cons] at h
      exact ⟨he, ih h.1 h.2⟩

mutual

theorem isPlain_expr : ∀ (p : Part) {e : Pattern}, Part.expr? p = some e → IsPlain e
  | .literal c, e, h => by
      simp only [Part.expr?, Option.some.injEq] at h
      rw [← h]
      refine isPlain_cats fun e he => ?_
      obtain ⟨b, -, rfl⟩ := List.mem_map.mp he
      trivial
  | .any, _, h => by
      cases h
      trivial
  | .star, _, h => by
      cases h
      trivial
  | .leading, _, h => by
      cases h
      exact ⟨trivial, trivial, trivial⟩
  | .trailing, _, h => by
      cases h
      exact ⟨trivial, trivial⟩
  | .between, _, h => by
      cases h
      exact ⟨trivial, trivial, trivial, trivial⟩
  | .oneOf _ _, _, h => by
      cases h
      trivial
  | .choice alternatives, e, h => by
      have hall := isPlain_alternatives alternatives
      simp only [Part.expr?] at h
      split at h
      · cases h
      · rename_i f rest hf
        cases h
        rw [hf, List.forall_mem_cons] at hall
        exact isPlain_anyOf hall.1 hall.2

theorem isPlain_rowExpr : ∀ (ps : List Part) {e : Pattern}, Part.rowExpr? ps = some e → IsPlain e
  | [], _, h => by cases h
  | p :: rest, e, h => by
      have hp := @isPlain_expr p
      have hrest := @isPlain_rowExpr rest
      simp only [Part.rowExpr?] at h
      split at h
      · exact hrest h
      · rename_i f hf _
        cases h
        exact hp hf
      · rename_i f g hf hg
        cases h
        exact ⟨hp hf, hrest hg⟩

theorem isPlain_alternatives : ∀ (alternatives : List (List Part)),
    ∀ e ∈ Part.alternativeExprs alternatives, IsPlain e
  | [], e, he => by cases he
  | ps :: rest, e, he => by
      have hps := @isPlain_rowExpr ps
      have hrest := isPlain_alternatives rest
      simp only [Part.alternativeExprs] at he
      split at he
      · exact hrest e he
      · rename_i f hf
        rcases List.mem_cons.mp he with rfl | he
        · exact hps hf
        · exact hrest e he

end

theorem isPlain_row (ps : List Part) : IsPlain (row ps) := by
  unfold row
  cases h : Part.rowExpr? ps with
  | none => trivial
  | some e => exact isPlain_rowExpr ps h

/-! ### Literal texts -/

/-- The symbols that a text is matched as. -/
def symbols (s : List Char) : List Nat := (Utf8.bytes s).map UInt8.toNat

theorem symbols_cons (c : Char) (s : List Char) : symbols (c :: s) = codes c ++ symbols s := by
  simp [symbols, codes]

theorem symbols_append (s t : List Char) : symbols (s ++ t) = symbols s ++ symbols t := by
  simp [symbols]

theorem symbols_prefix_iff {s t : List Char} : symbols s <+: symbols t ↔ s <+: t := by
  rw [← Utf8.bytes_prefix_iff]
  constructor
  · intro h
    obtain ⟨bs, hbs, he⟩ := List.prefix_map_iff.mp h
    rwa [List.map_injective_iff.mpr (fun _ _ => UInt8.toNat_inj.mp) he]
  · exact fun h => h.map _

theorem append_prefix_drop_iff {text us vs : List Nat} {i : Nat} :
    us ++ vs <+: text.drop i ↔ us <+: text.drop i ∧ vs <+: text.drop (i + us.length) := by
  rw [← List.drop_drop]
  constructor
  · rintro ⟨rest, h⟩
    rw [← h, List.append_assoc, List.drop_left]
    exact ⟨List.prefix_append _ _, List.prefix_append _ _⟩
  · rintro ⟨⟨rest, h⟩, hvs⟩
    rw [← h, List.drop_left] at hvs
    rw [← h]
    exact List.prefix_append_right_inj us |>.mpr hvs

theorem spans_byte_iff {text : List Nat} {b i j : Nat} :
    Spans text (byte b) i j ↔ text[i]? = some b ∧ j = i + 1 := by
  have hmem (c : Nat) : (CodeSet.singleton b).contains c = true ↔ c = b := by
    simp [CodeSet.singleton, CodeSet.ofRange, CodeSet.contains, Range.contains]
    omega
  simp only [byte, Spans, Pattern.Atom.Spans, hmem]
  simp

theorem singleton_prefix_drop_iff {text : List Nat} {b i : Nat} :
    [b] <+: text.drop i ↔ text[i]? = some b := by
  rw [← List.head?_drop]
  cases text.drop i <;> simp [List.cons_prefix_cons, eq_comm]

theorem spans_bytes_iff {text : List Nat} : ∀ {bs : List Nat} {i j : Nat},
    Spans text (Pattern.Expr.cats (bs.map byte)) i j ↔ bs <+: text.drop i ∧ j = i + bs.length
  | [], i, j => by
      simp [Pattern.Expr.cats, Spans, eq_comm]
  | [b], i, j => by
      rw [singleton_prefix_drop_iff]
      simpa [Pattern.Expr.cats] using spans_byte_iff
  | b :: b' :: bs, i, j => by
      have ih {k : Nat} : Spans text (Pattern.Expr.cats ((b' :: bs).map byte)) k j ↔ _ :=
        spans_bytes_iff
      have hb : b :: b' :: bs <+: text.drop i ↔ _ :=
        @append_prefix_drop_iff text [b] (b' :: bs) i
      simp only [List.map_cons, Pattern.Expr.cats, Spans, spans_byte_iff] at ih ⊢
      simp only [ih, hb, singleton_prefix_drop_iff, List.length_cons]
      constructor
      · rintro ⟨k, ⟨hb, rfl⟩, hbs, rfl⟩
        exact ⟨⟨hb, hbs⟩, by omega⟩
      · rintro ⟨⟨hb, hbs⟩, rfl⟩
        exact ⟨i + 1, ⟨hb, rfl⟩, hbs, by omega⟩

theorem expr?_literally (c : Char) : Part.expr? (literally c) = Part.expr? (.literal c) := by
  unfold literally
  split
  · rename_i hc
    simp only [isSpecial, Bool.or_eq_true, decide_eq_true_eq] at hc
    rcases hc with ((((rfl | rfl) | rfl) | rfl) | rfl) | rfl <;> rfl
  · rfl

theorem spans_row_literally_iff {text : List Nat} {s : List Char} {i j : Nat} :
    Spans text (row (s.map literally)) i j ↔
      symbols s <+: text.drop i ∧ j = i + (symbols s).length := by
  induction s generalizing i with
  | nil => simp [row, Part.rowExpr?, Spans, symbols, eq_comm]
  | cons c s ih =>
      have hc (k : Nat) : Spans text (row [literally c]) i k ↔
          codes c <+: text.drop i ∧ k = i + (codes c).length := by
        rw [← spans_bytes_iff]
        simp [row, Part.rowExpr?, expr?_literally, Part.expr?]
      rw [List.map_cons, spans_row_cons_iff, symbols_cons]
      simp only [hc, ih]
      rw [append_prefix_drop_iff, List.length_append]
      constructor
      · rintro ⟨_, ⟨hcode, rfl⟩, hs, rfl⟩
        exact ⟨⟨hcode, hs⟩, Nat.add_assoc ..⟩
      · rintro ⟨⟨hcode, hs⟩, rfl⟩
        exact ⟨_, ⟨hcode, rfl⟩, hs, (Nat.add_assoc ..).symm⟩

/-! ### Whole texts -/

theorem matchesText_iff {ps : List Part} (h : ps ≠ [.leading]) {t : List Char} :
    matchesText ps t = true ↔ Spans (symbols t) (row ps) 0 (symbols t).length := by
  unfold matchesText expr
  split
  · exact absurd rfl h
  · exact Pattern.matchesWhole_iff_spans

/-- Behind a text that is taken literally, parts match what they match alone. -/
theorem matchesText_literally_append_iff {s : List Char} {ps : List Part} (hs : s ≠ [])
    (hps : ps ≠ [.leading]) {t : List Char} : matchesText (s.map literally ++ ps) t = true ↔
      ∃ r, t = s ++ r ∧ matchesText ps r = true := by
  rw [matchesText_iff (literally_append_ne_leading hs ps), spans_row_append_iff]
  simp only [spans_row_literally_iff, List.drop_zero, Nat.zero_add]
  constructor
  · rintro ⟨_, ⟨hp, rfl⟩, hrest⟩
    obtain ⟨r, rfl⟩ := symbols_prefix_iff.mp hp
    refine ⟨r, rfl, (matchesText_iff hps).mpr ?_⟩
    rw [symbols_append, ← Nat.add_zero (symbols s).length,
      Pattern.spans_append_iff (isPlain_row ps)] at hrest
    obtain ⟨k, hk, hrest⟩ := hrest
    simp only [List.length_append, Nat.add_left_cancel_iff] at hk
    rwa [hk]
  · rintro ⟨r, rfl, hr⟩
    refine ⟨_, ⟨symbols_prefix_iff.mpr (List.prefix_append s r), rfl⟩, ?_⟩
    rw [symbols_append, ← Nat.add_zero (symbols s).length,
      Pattern.spans_append_iff (isPlain_row ps)]
    exact ⟨_, by simp, (matchesText_iff hps).mp hr⟩

end ScopedStyles.Glob
