import Mathlib.Data.List.Infix
import Mathlib.Tactic.MkIffOfInductiveProp
import ScopedStyles.Proofs.Address
import ScopedStyles.Proofs.Base64
import ScopedStyles.ScopeImport

/-! # Exchanging scope imports

Source text is read from left to right (`Exchanged`): where a clause stands it is exchanged, and
reading goes on behind it; any other character is kept.  The pieces of a text read it in this way
(`exchanged_piecesAfter`), so that the exchange does nothing but put the inline module's clause in
place of every clause that is met (`exchanged_exchange`), and nothing at all to code without one
(`exchange_of_absent`).

The inline module is carried by its address (`Carries`): the address is plain enough to stand
between any quotes, and reading its base64 yields the module that returns the token
(`carries_moduleUrl`). -/

namespace ScopedStyles.ScopeImport

/-! ### Clauses -/

theorem length_clause (q : Quote) : (clause q).length = clauseLength := by cases q <;> rfl

theorem clause_ne_nil (q : Quote) : clause q ≠ [] := by cases q <;> decide

theorem clause_unique {q q' : Quote} {s : List Char} (h : clause q <+: s) (h' : clause q' <+: s) :
    q = q' := by
  have hp : clause q <+: clause q' :=
    List.prefix_of_prefix_length_le h h' (by rw [length_clause, length_clause])
  revert hp
  cases q <;> cases q' <;> decide

theorem clauseAt?_eq_some_iff {s : List Char} {q : Quote} :
    clauseAt? s = some q ↔ clause q <+: s := by
  have found {q' : Quote} (h : clause q' <+: s) : some q' = some q ↔ clause q <+: s :=
    ⟨fun e => Option.some.inj e ▸ h, fun h' => congrArg some (clause_unique h h')⟩
  unfold clauseAt?
  simp only [List.isPrefixOf_iff_prefix]
  split
  · rename_i h
    exact found h
  · split
    · rename_i h
      exact found h
    · rename_i h₁ h₂
      constructor
      · intro e
        cases e
      · intro h
        cases q with
        | single => exact absurd h h₁
        | double => exact absurd h h₂

theorem clauseAt?_eq_none_iff {s : List Char} :
    clauseAt? s = none ↔ ∀ q, ¬ clause q <+: s := by
  rw [Option.eq_none_iff_forall_ne_some]
  exact forall_congr' fun q => not_congr clauseAt?_eq_some_iff

theorem occurs_iff : ∀ {s : List Char}, occurs s = true ↔ ∃ q, clause q <:+: s
  | [] => by
      constructor
      · intro h
        cases h
      · rintro ⟨q, h⟩
        exact absurd (List.infix_nil.mp h) (clause_ne_nil q)
  | c :: s => by
      rw [occurs, Bool.or_eq_true, occurs_iff, Option.isSome_iff_exists]
      simp only [clauseAt?_eq_some_iff, List.infix_cons_iff, exists_or]

theorem isPresent_iff {code : String} : isPresent code = true ↔ ∃ q, clause q <:+: code.toList :=
  occurs_iff

/-! ### Reading from left to right -/

/-- `Exchanged new s s'`: the text `s`, read from left to right with `new` in place of every clause,
is `s'`. -/
inductive Exchanged (new : List Char) : List Char → List Char → Prop
  | nil : Exchanged new [] []
  /-- No clause stands here. -/
  | kept {c : Char} {s s' : List Char} :
      (∀ q, ¬ clause q <+: c :: s) → Exchanged new s s' → Exchanged new (c :: s) (c :: s')
  | clause {s s' : List Char} (q : Quote) :
      Exchanged new s s' → Exchanged new (clause q ++ s) (new ++ s')

/-- The pieces of a text read it from left to right. -/
theorem exchanged_piecesAfter (new : List Char) : ∀ (n : Nat) (s : List Char),
    Exchanged new (s.drop n) ((piecesAfter n s).flatMap (Piece.exchanged new))
  | n, [] => by
      rw [List.drop_nil]
      cases n <;> exact .nil
  | n + 1, _ :: s => exchanged_piecesAfter new n s
  | 0, c :: s => by
      rw [List.drop_zero, piecesAfter]
      cases hq : clauseAt? (c :: s) with
      | some q =>
          obtain ⟨rest, hrest⟩ := clauseAt?_eq_some_iff.mp hq
          have hdrop : (c :: s).drop clauseLength = rest := by
            rw [← hrest, ← length_clause q, List.drop_left]
          have ih : Exchanged new ((c :: s).drop clauseLength) _ :=
            exchanged_piecesAfter new (clauseLength - 1) s
          rw [hdrop] at ih
          rw [← hrest]
          exact .clause q ih
      | none =>
          exact .kept (clauseAt?_eq_none_iff.mp hq) (exchanged_piecesAfter new 0 s)

theorem exchange_of_absent {code : String} (h : isPresent code = false) (t : Token) :
    exchange code t = code := by
  unfold exchange exchange?
  rw [h]
  rfl

theorem exchanged_exchange {code : String} (h : isPresent code = true) (t : Token) :
    Exchanged (inlineClause t) code.toList (exchange code t).toList := by
  unfold exchange exchange?
  rw [if_pos h, Option.getD_some, String.toList_ofList]
  exact exchanged_piecesAfter _ 0 _

/-! ### The inline module -/

/-- A visible ASCII character that is no quote of any kind and no backslash. -/
@[mk_iff]
structure Plain (c : Char) : Prop where
  visible : 32 < c.toNat ∧ c.toNat < 127
  ne_single : c ≠ '\''
  ne_double : c ≠ '"'
  ne_back : c.toNat ≠ 96
  ne_backslash : c ≠ '\\'

instance (c : Char) : Decidable (Plain c) := decidable_of_iff _ (plain_iff c).symm

/-- What the address of an inline module starts with. -/
def urlOpening : String := "data:text/javascript;base64,"

/-- The address `url` carries the module that returns `t`. -/
structure Carries (url : String) (t : Token) : Prop where
  plain : ∀ c ∈ url.toList, Plain c
  module : ∃ data, url.toList = urlOpening.toList ++ data ∧
    Base64.decode data =
      some (Utf8.bytes ("export default () => \"" ++ t.text ++ "\"").toList)

theorem plain_of_mem_alphabet {c : Char} (h : c ∈ Base64.alphabet) : Plain c := by
  have hall : Base64.alphabet.all (fun c => Plain c) = true := by decide
  exact of_decide_eq_true (List.all_eq_true.mp hall c h)

theorem plain_of_mem_urlOpening {c : Char} (h : c ∈ urlOpening.toList) : Plain c := by
  have hall : urlOpening.toList.all (fun c => Plain c) = true := by decide
  exact of_decide_eq_true (List.all_eq_true.mp hall c h)

theorem toList_moduleUrl (t : Token) : (moduleUrl t).toList =
    urlOpening.toList ++ Base64.encode (Utf8.bytes (moduleSource t).toList) :=
  String.toList_ofList

theorem inlineClause_eq (t : Token) :
    inlineClause t = (" from '" ++ moduleUrl t ++ "'").toList := by
  unfold inlineClause
  rw [String.toList_append, String.toList_append]
  rfl

theorem moduleSource_eq (t : Token) :
    moduleSource t = "export default () => \"" ++ t.text ++ "\"" := by
  apply String.toList_inj.mp
  unfold moduleSource Token.text
  rw [String.toList_append, String.toList_append, String.toList_ofList, String.toList_ofList,
    String.toList_ofList]
  rfl

theorem carries_moduleUrl (t : Token) : Carries (moduleUrl t) t where
  plain c hc := by
    rw [toList_moduleUrl] at hc
    rcases List.mem_append.mp hc with hc | hc
    · exact plain_of_mem_urlOpening hc
    · rcases Base64.mem_encode hc with hc | rfl
      · exact plain_of_mem_alphabet hc
      · decide
  module := ⟨_, toList_moduleUrl t, by rw [Base64.decode_encode, moduleSource_eq]⟩

end ScopedStyles.ScopeImport
