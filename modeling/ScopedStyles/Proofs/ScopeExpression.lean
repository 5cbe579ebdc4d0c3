import ScopedStyles.Proofs.DefaultPatterns
import ScopedStyles.Proofs.ScopeClauses

/-! # Scope imports as matches

Scope imports can be searched for with a regular expression, which stands for the two clauses
(`scopeExpression`).  It matches the code that imports its scope, and the spans of its matches are
the places of the clauses that an exchange cuts out (`scopeExpression_exact`). -/

namespace ScopedStyles.ScopeImport

open Pattern (Word words?)

/-- The regular expression for a clause. -/
def scopeExpression : String := " from (?:'@miniwind/scope'|\"@miniwind/scope\")"

/-- The words that it stands for. -/
def clauseWords : List Word :=
  [⟨codesOf (clause .single), false⟩, ⟨codesOf (clause .double), false⟩]

theorem exists_mem_clauseWords_iff {P : Word → Prop} :
    (∃ w ∈ clauseWords, P w) ↔ ∃ q, P ⟨codesOf (clause q), false⟩ := by
  simp only [clauseWords, List.mem_cons, List.not_mem_nil, or_false, exists_eq_or_imp,
    exists_eq_left]
  constructor
  · rintro (h | h)
    · exact ⟨.single, h⟩
    · exact ⟨.double, h⟩
  · rintro ⟨_ | _, h⟩
    · exact .inl h
    · exact .inr h

theorem compile_scopeExpression :
    ∃ e, Regex.compile scopeExpression.toList = .ok e ∧ words? e = some clauseWords := by
  refine Regex.compile_of_words ?_
  decide +kernel

/-- **Scope imports are the matches of an expression.** -/
theorem scopeExpression_exact : ∃ e, Regex.compile scopeExpression.toList = .ok e ∧
    (∀ code : String, isPresent code = (Matcher.regex e).isMatch code) ∧
    ∀ (code : String) (d : Cut), d.Of code.toList → ∀ i j, Pattern.Spans (codesOf code.toList) e i j ↔
      ∃ q, (i, q) ∈ d.places ∧ j = i + clauseLength := by
  obtain ⟨e, he, hwords⟩ := compile_scopeExpression
  refine ⟨e, he, fun code => ?_, fun code d hd i j => ?_⟩
  · have hmatch : (Matcher.regex e).isMatch code = true ↔
        ∃ w ∈ clauseWords, w.StandsIn (codesOf code.toList) :=
      Pattern.matchesSomewhere_iff_words hwords
    rw [Bool.eq_iff_iff, isPresent_iff, hmatch, exists_mem_clauseWords_iff]
    simp only [standsIn_inside_iff]
  · rw [Pattern.spans_iff_words hwords, exists_mem_clauseWords_iff]
    simp only [spans_inside_iff, length_clause, ← hd.standsAt_iff, StandsAt]

end ScopedStyles.ScopeImport
