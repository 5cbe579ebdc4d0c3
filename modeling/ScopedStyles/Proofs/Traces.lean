import Mathlib.Data.List.Induction

/-! # Traces

A trace is the list of the turns that a system has taken, oldest first, whatever system it is and
whatever its turns record.  It grows at its end, and what is read off it grows along
(`filterMap_concat`, `flatMap_concat`).  Systems have many things under way, told apart by numbers;
the turns about one of them are those with its number (`about_concat_self`, `about_concat_of_ne`).

If a trace of some kind is always a trace of that kind with one more turn that fits it, then every
one of its turns fits the trace before it (`split`, `exists_split_of_mem`). -/

namespace ScopedStyles.Traces

variable {τ α : Type} {h : List τ} {u : τ}

/-! ### What a trace shows -/

theorem filterMap_concat (f : τ → Option α) :
    (h ++ [u]).filterMap f = h.filterMap f ++ (f u).toList := by
  rw [List.filterMap_append]
  cases hu : f u <;> simp [hu]

theorem flatMap_concat (f : τ → List α) : (h ++ [u]).flatMap f = h.flatMap f ++ f u := by
  simp

/-! ### The turns with a number -/

/-- The turns of a trace whose number is `n`. -/
def about (number? : τ → Option Nat) (h : List τ) (n : Nat) : List τ :=
  h.filter fun u => number? u = some n

section about
variable {number? : τ → Option Nat} {n : Nat}

theorem mem_about : u ∈ about number? h n ↔ u ∈ h ∧ number? u = some n := by
  simp [about]

theorem about_eq_nil_iff : about number? h n = [] ↔ ∀ u ∈ h, number? u ≠ some n := by
  simp [about]

theorem about_concat_self (hu : number? u = some n) :
    about number? (h ++ [u]) n = about number? h n ++ [u] := by
  simp [about, hu]

theorem about_concat_of_ne (hu : number? u ≠ some n) :
    about number? (h ++ [u]) n = about number? h n := by
  simp [about, hu]

end about

/-! ### The turns of a trace -/

section split
variable {R : List τ → Prop} {P : List τ → τ → Prop}

/-- What leads to a turn is a trace of its own, which the turn fits. -/
theorem split (hlast : ∀ {h u}, R (h ++ [u]) → R h ∧ P h u) {h₁ h₂ : List τ}
    (hR : R (h₁ ++ u :: h₂)) : R h₁ ∧ P h₁ u := by
  induction h₂ using List.reverseRecOn with
  | nil => exact hlast hR
  | append_singleton h₂ v ih =>
      have hcut : h₁ ++ u :: (h₂ ++ [v]) = (h₁ ++ u :: h₂) ++ [v] := by simp
      rw [hcut] at hR
      exact ih (hlast hR).1

theorem exists_split_of_mem (hlast : ∀ {h u}, R (h ++ [u]) → R h ∧ P h u) (hR : R h)
    (hu : u ∈ h) : ∃ h₁ h₂, h = h₁ ++ u :: h₂ ∧ R h₁ ∧ P h₁ u := by
  obtain ⟨h₁, h₂, rfl⟩ := List.append_of_mem hu
  exact ⟨h₁, h₂, rfl, split hlast hR⟩

end split
end ScopedStyles.Traces
