import ScopedStyles.Proofs.ScopeClauses
import ScopedStyles.Proofs.Session.OneToken

/-! # No scope import is left

An output starts with the import of the file's stylesheet, and then comes the code with its scope
imports exchanged.  Neither part makes a scope import with the other
(`ScopeImport.Absent.stylesheetImport`), so that no output of a transform has one, and exchanging
once more changes nothing (`scopeImports_exhausted`). -/

namespace ScopedStyles

open History

theorem ScopeImport.Absent.stylesheetImport {s : List Char} (t : Token) (h : Absent s) :
    Absent ("import \"/@miniwind/".toList ++ t.text.toList ++ ".css\";".toList ++ s) := by
  have htext : Absent (t.text.toList ++ (".css\";".toList ++ s)) := by
    refine (h.append (by decide)).append fun hc => ?_
    rw [t.toList_text] at hc
    exact absurd (Token.mem_digits hc) (by decide)
  have hquote : Absent (' ' :: '"' :: ("/@miniwind/".toList ++
      (t.text.toList ++ (".css\";".toList ++ s)))) :=
    ((htext.append (by decide)).cons (by decide)).blank (by decide)
  have hopen : "import \"/@miniwind/".toList =
      "import".toList ++ ' ' :: '"' :: "/@miniwind/".toList := by
    decide
  rw [hopen]
  simp only [List.append_assoc, List.cons_append]
  exact hquote.append (by decide)

theorem isPresent_code_outputOf (code id : String) :
    ScopeImport.isPresent (outputOf code id).code = false := by
  rw [ScopeImport.isPresent_eq_false_iff, code_outputOf]
  simp only [String.toList_append]
  exact .stylesheetImport _
    (ScopeImport.isPresent_eq_false_iff.mp (ScopeImport.isPresent_exchange code _))

/-- **No scope import is left.**  An exchange leaves no scope import in any code, so that another
one, for the same token or a different one, has nothing to exchange and gives the same code.  And no
transform returns an output with a scope import in it, neither within its parts nor where they
meet. -/
theorem scopeImports_exhausted :
    (∀ (code : String) (t u : Token),
      ScopeImport.isPresent (ScopeImport.exchange code t) = false ∧
      ScopeImport.exchange? (ScopeImport.exchange code t) u = none ∧
      ScopeImport.exchange (ScopeImport.exchange code t) u = ScopeImport.exchange code t) ∧
    ∀ {S : Type} {filter : Filter} {h : History S} {s : Session S}, Run filter h s →
      ∀ (n : Nat) (out : Output), (n, .ok (some out)) ∈ returns h →
        ScopeImport.isPresent out.code = false := by
  constructor
  · intro code t u
    have habsent := ScopeImport.isPresent_exchange code t
    exact ⟨habsent, ScopeImport.exchange?_exchange code t u,
      ScopeImport.exchange_of_absent habsent u⟩
  · intro S filter h s run n out hr
    obtain ⟨c, hc, hcn⟩ := run.committed_of_output hr rfl
    have hout := run.output_of_returned hr hc hcn
    obtain rfl : out = outputOf c.code c.id := Option.some.inj (Except.ok.inj hout)
    exact isPresent_code_outputOf _ _

/-- A clause between what looks like the beginning of one and what looks like the end of one. -/
theorem scopeImports_exhausted_seams :
    ∃ (h : History String) (s : Session String) (out : Output), Run .all h s ∧
      (0, .ok (some out)) ∈ returns h ∧
      out = outputOf "a from from '@miniwind/scope''@miniwind/scope'" "/a.ts" ∧
      ScopeImport.isPresent "a from from '@miniwind/scope''@miniwind/scope'" = true ∧
      ScopeImport.isPresent out.code = false := by
  obtain ⟨h, s, run, hp⟩ := exists_run_of_follow? (S := String) .all
    [.start 0 "a from from '@miniwind/scope''@miniwind/scope'" "/a.ts", .generated 0 (.ok none)]
    (fun q => (0, .ok (some (outputOf "a from from '@miniwind/scope''@miniwind/scope'" "/a.ts"))) ∈
        returns q.1 ∧
      ScopeImport.isPresent "a from from '@miniwind/scope''@miniwind/scope'" = true)
    (by decide +kernel)
  obtain ⟨hr, hpresent⟩ := of_decide_eq_true hp
  exact ⟨h, s, _, run, hr, rfl, hpresent, scopeImports_exhausted.2 run 0 _ hr⟩

end ScopedStyles
