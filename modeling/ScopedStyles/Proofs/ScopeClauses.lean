import ScopedStyles.Proofs.ScopeImport

/-! # Clauses of a text

Where scope imports stand in a text, and what is left of them by an exchange.

No clause starts inside another (`StandsAt.apart`), since what a clause goes on with is not what one
begins with (`clause_drop_not_prefix`).  So a text has one `Cut` in which every clause that stands
anywhere is cut out (`Cut.Of.unique`), the reading from left to right finds it
(`Exchanged.exists_cut`), and an exchange does nothing but write something else between the kept
texts (`exchange_exact`).

The clause of an inline module makes no new one, neither by itself nor together with the text on
either side: a clause that ran into it from the left would have to go on like its beginning
(`Exchanged.clause_drop`), and the blanks in it do not begin a clause (`Absent.inlineClause`). -/

namespace ScopedStyles.ScopeImport

/-! ### Places of clauses -/

/-- The clause in quotes `q` stands at the place `i` of the text `s`. -/
def StandsAt (s : List Char) (i : Nat) (q : Quote) : Prop := clause q <+: s.drop i

theorem exists_standsAt_iff {s : List Char} {q : Quote} :
    (∃ i, StandsAt s i q) ↔ clause q <:+: s := by
  constructor
  · rintro ⟨i, h⟩
    exact h.isInfix.trans (List.drop_suffix i s).isInfix
  · rintro ⟨u, v, h⟩
    refine ⟨u.length, v, ?_⟩
    rw [← h, List.append_assoc, List.drop_left]

/-- What is left of a clause behind its beginning is no beginning of a clause. -/
theorem clause_drop_not_prefix (q q' : Quote) {i : Nat} (h₀ : 0 < i) (h : i < clauseLength) :
    ¬ (clause q).drop i <+: clause q' := by
  have hall : ∀ i < 23, 0 < i → ¬ (clause q).drop i <+: clause q' := by
    cases q <;> cases q' <;> decide
  exact hall i h h₀

theorem not_standsAt_clause_append (q q' : Quote) (s : List Char) {i : Nat} (h₀ : 0 < i)
    (h : i < clauseLength) : ¬ StandsAt (clause q ++ s) i q' := by
  intro hq
  unfold StandsAt at hq
  rw [List.drop_append_of_le_length (by rw [length_clause]; exact h.le)] at hq
  refine clause_drop_not_prefix q q' h₀ h ?_
  refine List.prefix_of_prefix_length_le (List.prefix_append _ s) hq ?_
  rw [List.length_drop, length_clause, length_clause]
  exact Nat.sub_le _ _

theorem StandsAt.apart {s : List Char} {i j : Nat} {q q' : Quote} (hi : StandsAt s i q)
    (hj : StandsAt s j q') (hij : i < j) : i + clauseLength ≤ j := by
  obtain ⟨rest, hrest⟩ := hi
  by_contra hlt
  refine not_standsAt_clause_append q q' rest (i := j - i) (by omega) (by omega) ?_
  unfold StandsAt
  rwa [hrest, List.drop_drop, Nat.add_sub_cancel' hij.le]

/-! ### Cutting out the clauses -/

/-- A text without some of its clauses: the text before the first of them, and each of them with the
text behind it. -/
structure Cut where
  first : List Char
  rest : List (Quote × List Char)

namespace Cut

/-- The text with `write q` in place of a clause in quotes `q`. -/
def join (write : Quote → List Char) (d : Cut) : List Char :=
  d.first ++ d.rest.flatMap fun p => write p.1 ++ p.2

/-- The places of clauses, the first of which stands at `n`. -/
def placesFrom (n : Nat) : List (Quote × List Char) → List (Nat × Quote)
  | [] => []
  | (q, c) :: rest => (n, q) :: placesFrom (n + clauseLength + c.length) rest

/-- The places of the clauses that are cut out. -/
def places (d : Cut) : List (Nat × Quote) := placesFrom d.first.length d.rest

/-- The cut of the text `s`: all clauses that stand in `s` are cut out. -/
structure Of (d : Cut) (s : List Char) : Prop where
  join_clause : d.join clause = s
  standsAt_iff : ∀ i q, StandsAt s i q ↔ (i, q) ∈ d.places

theorem mem_placesFrom_add {n m i : Nat} {q : Quote} : ∀ {rest : List (Quote × List Char)},
    (i, q) ∈ placesFrom (n + m) rest ↔ ∃ j, i = n + j ∧ (j, q) ∈ placesFrom m rest
  | [] => by simp [placesFrom]
  | (q', c) :: rest => by
      have ih : (i, q) ∈ placesFrom (n + (m + clauseLength + c.length)) rest ↔ _ :=
        mem_placesFrom_add
      simp only [placesFrom, List.mem_cons, Prod.mk.injEq]
      rw [Nat.add_assoc n m, Nat.add_assoc n, ih]
      constructor
      · rintro (⟨rfl, rfl⟩ | ⟨j, rfl, hj⟩)
        · exact ⟨m, rfl, .inl ⟨rfl, rfl⟩⟩
        · exact ⟨j, rfl, .inr hj⟩
      · rintro ⟨j, rfl, ⟨rfl, rfl⟩ | hj⟩
        · exact .inl ⟨rfl, rfl⟩
        · exact .inr ⟨j, rfl, hj⟩

theorem mem_places {d : Cut} {i : Nat} {q : Quote} :
    (i, q) ∈ d.places ↔ ∃ j, i = d.first.length + j ∧ (j, q) ∈ placesFrom 0 d.rest := by
  rw [← mem_placesFrom_add]
  rfl

theorem first_mem_places (f : List Char) (q : Quote) (c : List Char)
    (rest : List (Quote × List Char)) : (f.length, q) ∈ (⟨f, (q, c) :: rest⟩ : Cut).places :=
  List.mem_cons_self

/-- Behind its first clause, the cut of a text is the cut of the rest. -/
theorem Of.tail {f c s : List Char} {q : Quote} {rest : List (Quote × List Char)}
    (h : Of ⟨f, (q, c) :: rest⟩ s) : Of ⟨c, rest⟩ (s.drop (f.length + clauseLength)) where
  join_clause := by
    rw [← h.join_clause]
    simp only [join, List.flatMap_cons, List.append_assoc]
    rw [← List.drop_drop, List.drop_left, ← length_clause q, List.drop_left]
  standsAt_iff j q' := by
    have hplaces : (f.length + clauseLength + j, q') ∈ (⟨f, (q, c) :: rest⟩ : Cut).places ↔
        (f.length + clauseLength + j, q') ∈
          placesFrom (f.length + clauseLength + c.length) rest := by
      unfold places
      rw [placesFrom, List.mem_cons, or_iff_right]
      intro he
      have hlen : 0 < clauseLength := by decide
      have := (Prod.mk.inj he).1
      simp only at this
      omega
    have hstands := h.standsAt_iff (f.length + clauseLength + j) q'
    unfold StandsAt at hstands ⊢
    rw [List.drop_drop, hstands, hplaces, mem_placesFrom_add]
    constructor
    · rintro ⟨k, hk, hmem⟩
      obtain rfl : j = k := by omega
      exact hmem
    · exact fun hmem => ⟨j, rfl, hmem⟩

theorem Of.unique {d d' : Cut} {s : List Char} (h : d.Of s) (h' : d'.Of s) : d = d' := by
  obtain ⟨f, rest⟩ := d
  induction rest generalizing f d' s with
  | nil =>
      obtain ⟨f', _ | ⟨⟨q', c'⟩, rest'⟩⟩ := d'
      · have hf := h.join_clause.trans h'.join_clause.symm
        simp only [join, List.flatMap_nil, List.append_nil] at hf
        rw [hf]
      · have hq' := (h'.standsAt_iff _ _).mpr (first_mem_places f' q' c' rest')
        exact absurd ((h.standsAt_iff _ _).mp hq') (List.not_mem_nil)
  | cons p rest ih =>
      obtain ⟨q, c⟩ := p
      have hq := (h.standsAt_iff _ _).mpr (first_mem_places f q c rest)
      have hmem := (h'.standsAt_iff _ _).mp hq
      obtain ⟨f', _ | ⟨⟨q', c'⟩, rest'⟩⟩ := d'
      · exact absurd hmem List.not_mem_nil
      · have hq' := (h'.standsAt_iff _ _).mpr (first_mem_places f' q' c' rest')
        -- Each of the first clauses is not before the other.
        obtain ⟨j, hj, -⟩ := mem_places.mp hmem
        obtain ⟨j', hj', -⟩ := mem_places.mp ((h.standsAt_iff _ _).mp hq')
        have hlen : f.length = f'.length := by
          simp only at hj hj'
          omega
        obtain ⟨rfl, -⟩ := List.append_inj (h.join_clause.trans h'.join_clause.symm) hlen
        obtain rfl := clause_unique hq hq'
        obtain ⟨rfl, rfl⟩ := Cut.mk.inj (ih h'.tail c h.tail)
        rfl

/-! ### Reading a text finds its cut -/

theorem Of.nil : Of ⟨[], []⟩ [] where
  join_clause := rfl
  standsAt_iff i q := by
    unfold StandsAt
    rw [List.drop_nil, List.prefix_nil]
    exact iff_of_false (clause_ne_nil q) List.not_mem_nil

theorem Of.kept {d : Cut} {c : Char} {s : List Char} (hno : ∀ q, ¬ clause q <+: c :: s)
    (h : d.Of s) : Of ⟨c :: d.first, d.rest⟩ (c :: s) where
  join_clause := congrArg (c :: ·) h.join_clause
  standsAt_iff i q := by
    cases i with
    | zero =>
        refine iff_of_false (hno q) fun hmem => ?_
        obtain ⟨j, hj, -⟩ := mem_places.mp hmem
        simp only [List.length_cons] at hj
        omega
    | succ i =>
        have hi := h.standsAt_iff i q
        rw [mem_places] at hi ⊢
        refine Iff.trans hi (exists_congr fun j => and_congr_left' ?_)
        simp only [List.length_cons]
        omega

theorem Of.clause {d : Cut} {s : List Char} (q : Quote) (h : d.Of s) :
    Of ⟨[], (q, d.first) :: d.rest⟩ (ScopeImport.clause q ++ s) where
  join_clause := by
    rw [← h.join_clause]
    simp only [join, List.nil_append, List.flatMap_cons, List.append_assoc]
  standsAt_iff i q' := by
    have hplaces : (i, q') ∈ (⟨[], (q, d.first) :: d.rest⟩ : Cut).places ↔
        (i = 0 ∧ q' = q) ∨ ∃ j, i = clauseLength + j ∧ (j, q') ∈ d.places := by
      unfold places
      rw [placesFrom, List.mem_cons, Prod.mk.injEq, ← mem_placesFrom_add]
      simp only [List.length_nil, Nat.zero_add]
    rw [hplaces]
    rcases Nat.eq_zero_or_pos i with rfl | hpos
    · constructor
      · exact fun hq' => .inl ⟨rfl, clause_unique hq' (List.prefix_append _ _)⟩
      · rintro (⟨-, rfl⟩ | ⟨j, hj, -⟩)
        · exact List.prefix_append _ _
        · have hlen : 0 < clauseLength := by decide
          omega
    · rcases Nat.lt_or_ge i clauseLength with hlt | hge
      · refine iff_of_false (not_standsAt_clause_append q q' s hpos hlt) ?_
        rintro (⟨rfl, -⟩ | ⟨j, rfl, -⟩) <;> omega
      · obtain ⟨j, rfl⟩ := Nat.exists_eq_add_of_le hge
        unfold StandsAt
        rw [← List.drop_drop, ← length_clause q, List.drop_left]
        refine (h.standsAt_iff j q').trans ?_
        constructor
        · exact fun hmem => .inr ⟨j, rfl, hmem⟩
        · rintro (⟨he, -⟩ | ⟨k, hk, hmem⟩)
          · rw [length_clause] at he
            omega
          · obtain rfl : j = k := by omega
            exact hmem

end Cut

/-- Reading a text from left to right finds its cut. -/
theorem Exchanged.exists_cut {new s s' : List Char} (h : Exchanged new s s') :
    ∃ d : Cut, d.Of s ∧ d.join (fun _ => new) = s' := by
  induction h with
  | nil => exact ⟨_, .nil, rfl⟩
  | @kept c s s' hno _ ih =>
      obtain ⟨d, hd, hs'⟩ := ih
      exact ⟨_, .kept hno hd, congrArg (c :: ·) hs'⟩
  | clause q _ ih =>
      obtain ⟨d, hd, rfl⟩ := ih
      refine ⟨_, .clause q hd, ?_⟩
      simp only [Cut.join, List.nil_append, List.flatMap_cons, List.append_assoc]

theorem Cut.Of.isPresent_iff {d : Cut} {code : String} (h : d.Of code.toList) :
    isPresent code = true ↔ 0 < d.rest.length := by
  rw [ScopeImport.isPresent_iff]
  simp only [← exists_standsAt_iff, h.standsAt_iff]
  obtain ⟨f, _ | ⟨⟨q, c⟩, rest⟩⟩ := d
  · simp [Cut.places, Cut.placesFrom]
  · exact iff_of_true ⟨q, _, Cut.first_mem_places f q c rest⟩ (Nat.succ_pos _)

theorem Cut.join_eq_first {d : Cut} (h : d.rest = []) (write : Quote → List Char) :
    d.join write = d.first := by
  unfold Cut.join
  rw [h, List.flatMap_nil, List.append_nil]

/-- **The exact meaning of an exchange.**  Clauses never overlap, and there is one way to cut all
clauses out of a code.  The code imports its scope exactly if there is one; what is exchanged is
each of them, for a clause around the address of the inline module, while the texts between stay as
they are; and nothing is exchanged exactly if there is none. -/
theorem exchange_exact (code : String) (t : Token) :
    (∀ i j q q', StandsAt code.toList i q → StandsAt code.toList j q' → i < j →
      i + clauseLength ≤ j) ∧
    ∃ d : Cut, d.Of code.toList ∧ (∀ d' : Cut, d'.Of code.toList → d' = d) ∧
      (isPresent code = true ↔ 0 < d.rest.length) ∧
      (exchange code t).toList = d.join (fun _ => (" from '" ++ moduleUrl t ++ "'").toList) ∧
      (exchange? code t = none ↔ d.rest.length = 0) := by
  refine ⟨fun i j q q' hi hj hij => hi.apart hj hij, ?_⟩
  obtain ⟨d, hd, hjoin⟩ : ∃ d : Cut, d.Of code.toList ∧ d.join (fun _ => inlineClause t) = _ :=
    (exchanged_piecesAfter (inlineClause t) 0 code.toList).exists_cut
  refine ⟨d, hd, fun d' hd' => hd'.unique hd, hd.isPresent_iff, ?_, ?_⟩
  · rw [← inlineClause_eq]
    cases hp : isPresent code with
    | true =>
        unfold exchange exchange?
        rw [if_pos hp, Option.getD_some, String.toList_ofList]
        exact hjoin.symm
    | false =>
        have hrest : d.rest = [] := by
          have hno := mt hd.isPresent_iff.mpr (by rw [hp]; exact Bool.false_ne_true)
          exact List.eq_nil_of_length_eq_zero (Nat.eq_zero_of_not_pos hno)
        rw [exchange_of_absent hp, Cut.join_eq_first hrest, ← hd.join_clause,
          Cut.join_eq_first hrest]
  · have hpos := hd.isPresent_iff
    unfold exchange?
    cases hp : isPresent code with
    | true =>
        rw [if_pos rfl]
        exact iff_of_false (nomatch ·) (hpos.mp hp).ne'
    | false =>
        rw [hp] at hpos
        rw [if_neg Bool.false_ne_true]
        exact iff_of_true rfl (Nat.eq_zero_of_not_pos (mt hpos.mpr Bool.false_ne_true))

/-- The beginning of a clause, and then two clauses side by side. -/
theorem exchange_exact_adjacent :
    5 + clauseLength ≤ 28 ∧
    isPresent " from from '@miniwind/scope' from \"@miniwind/scope\"" = true ∧
    (exchange " from from '@miniwind/scope' from \"@miniwind/scope\"" ⟨0, 1, 2, 255⟩).toList =
      " from".toList ++ (" from '" ++ moduleUrl ⟨0, 1, 2, 255⟩ ++ "'").toList ++
        (" from '" ++ moduleUrl ⟨0, 1, 2, 255⟩ ++ "'").toList := by
  obtain ⟨hapart, d, -, hunique, hpresent, hexchange, -⟩ :=
    exchange_exact " from from '@miniwind/scope' from \"@miniwind/scope\"" ⟨0, 1, 2, 255⟩
  have hcut : Cut.Of ⟨" from".toList, [(.single, []), (.double, [])]⟩
      " from from '@miniwind/scope' from \"@miniwind/scope\"".toList := by
    refine .kept ?_ <| .kept ?_ <| .kept ?_ <| .kept ?_ <| .kept ?_ <|
      .clause .single <| .clause .double .nil
    all_goals exact fun q => by cases q <;> decide
  obtain rfl := hunique _ hcut
  refine ⟨hapart 5 28 .single .double ?_ ?_ (by decide), hpresent.mpr (by decide), ?_⟩
  · unfold StandsAt
    decide
  · unfold StandsAt
    decide
  · rw [hexchange]
    simp only [Cut.join, List.flatMap_cons, List.flatMap_nil, List.append_nil, List.append_assoc]

/-! ### What an exchange leaves -/

/-- No clause stands in a text. -/
def Absent (s : List Char) : Prop := ∀ q, ¬ clause q <:+: s

theorem isPresent_eq_false_iff {code : String} : isPresent code = false ↔ Absent code.toList := by
  rw [← Bool.not_eq_true, isPresent_iff, not_exists]
  rfl

theorem Absent.nil : Absent [] := fun q h => clause_ne_nil q (List.infix_nil.mp h)

theorem Absent.cons {c : Char} {s : List Char} (hc : c ≠ ' ') (h : Absent s) : Absent (c :: s) := by
  intro q hq
  rcases List.infix_cons_iff.mp hq with hq | hq
  · exact hc (List.cons_prefix_cons.mp hq).1.symm
  · exact h q hq

theorem Absent.append {u s : List Char} (hu : ' ' ∉ u) (h : Absent s) : Absent (u ++ s) := by
  induction u with
  | nil => exact h
  | cons c u ih =>
      rw [List.mem_cons, not_or] at hu
      exact (ih hu.2).cons (Ne.symm hu.1)

/-- Behind its blank, a clause goes on with a letter. -/
theorem Absent.blank {c : Char} {s : List Char} (hc : c ≠ 'f') (h : Absent (c :: s)) :
    Absent (' ' :: c :: s) := by
  intro q hq
  rcases List.infix_cons_iff.mp hq with hq | hq
  · exact hc (List.cons_prefix_cons.mp (List.cons_prefix_cons.mp hq).2).1.symm
  · exact h q hq

/-- What every clause around the address of an inline module starts with. -/
def inlineOpening : List Char := " from 'data:text/javascript;base64,".toList

theorem inlineOpening_prefix_inlineClause (t : Token) : inlineOpening <+: inlineClause t := by
  have hopen : inlineOpening = " from '".toList ++ urlOpening.toList := by decide
  unfold inlineClause
  rw [toList_moduleUrl, hopen, ← List.append_assoc, List.append_assoc]
  exact List.prefix_append _ _

/-- A clause does not go on, from any place, like the clause of an inline module. -/
theorem clause_drop_not_prefix_inline (q : Quote) (t : Token) (s : List Char) {i : Nat}
    (h : i < clauseLength) : ¬ (clause q).drop i <+: inlineClause t ++ s := by
  intro hp
  have hall : ∀ i < 23, ¬ (clause q).drop i <+: inlineOpening := by
    cases q <;> decide
  refine hall i h (List.prefix_of_prefix_length_le hp
    ((inlineOpening_prefix_inlineClause t).trans (List.prefix_append _ s)) ?_)
  have hlen : (clause q).length ≤ inlineOpening.length := by
    cases q <;> decide
  rw [List.length_drop]
  exact (Nat.sub_le _ _).trans hlen

/-- The clause of an inline module makes no clause with what stands behind it. -/
theorem Absent.inlineClause {s : List Char} (t : Token) (h : Absent s) :
    Absent (inlineClause t ++ s) := by
  have hurl : Absent ((moduleUrl t).toList ++ '\'' :: s) := by
    refine (h.cons (by decide)).append fun hc => ?_
    exact absurd ((carries_moduleUrl t).plain _ hc).visible.1 (by decide)
  have hquote : Absent (' ' :: '\'' :: ((moduleUrl t).toList ++ '\'' :: s)) :=
    (hurl.cons (by decide)).blank (by decide)
  have hword : Absent ("from".toList ++ ' ' :: '\'' :: ((moduleUrl t).toList ++ '\'' :: s)) :=
    hquote.append (by decide)
  intro q hq
  have hsplit : ScopeImport.inlineClause t ++ s =
      ' ' :: ("from".toList ++ ' ' :: '\'' :: ((moduleUrl t).toList ++ '\'' :: s)) := by
    have hopen : " from '".toList = ' ' :: ("from".toList ++ [' ', '\'']) := by decide
    unfold ScopeImport.inlineClause
    rw [hopen]
    simp only [List.cons_append, List.append_assoc, List.nil_append]
  rw [hsplit] at hq
  rcases List.infix_cons_iff.mp hq with hq | hq
  · rw [← hsplit] at hq
    refine clause_drop_not_prefix_inline q t s (i := 0) (by decide) ?_
    rwa [List.drop_zero]
  · exact hword q hq

/-- Where a clause goes on in the exchanged text, it goes on in the text itself: it runs into no
clause that was exchanged. -/
theorem Exchanged.clause_drop {t : Token} {s s' : List Char} (h : Exchanged (inlineClause t) s s')
    (q : Quote) : ∀ {i : Nat},
      (ScopeImport.clause q).drop i <+: s' → (ScopeImport.clause q).drop i <+: s := by
  induction h with
  | nil => exact fun hp => hp
  | @kept c s s' _ _ ih =>
      intro i hp
      rcases Nat.lt_or_ge i (ScopeImport.clause q).length with hi | hi
      · rw [List.drop_eq_getElem_cons hi, List.cons_prefix_cons] at hp ⊢
        exact ⟨hp.1, ih hp.2⟩
      · rw [List.drop_eq_nil_of_le hi]
        exact List.nil_prefix
  | @clause s s' q' _ _ =>
      intro i hp
      rcases Nat.lt_or_ge i (ScopeImport.clause q).length with hi | hi
      · rw [length_clause] at hi
        exact absurd hp (clause_drop_not_prefix_inline q t s' hi)
      · rw [List.drop_eq_nil_of_le hi]
        exact List.nil_prefix

theorem Exchanged.absent {t : Token} {s s' : List Char} (h : Exchanged (inlineClause t) s s') :
    Absent s' := by
  induction h with
  | nil => exact .nil
  | kept hno h ih =>
      intro q hq
      rcases List.infix_cons_iff.mp hq with hq | hq
      · refine hno q ?_
        rw [← List.drop_zero (l := ScopeImport.clause q)] at hq ⊢
        exact (h.kept hno).clause_drop q hq
      · exact ih q hq
  | clause _ _ ih => exact ih.inlineClause t

theorem isPresent_exchange (code : String) (t : Token) : isPresent (exchange code t) = false := by
  cases hp : isPresent code with
  | true => exact isPresent_eq_false_iff.mpr (exchanged_exchange hp t).absent
  | false => rw [exchange_of_absent hp, hp]

theorem exchange?_exchange (code : String) (t u : Token) :
    exchange? (exchange code t) u = none := by
  unfold exchange?
  rw [isPresent_exchange, if_neg Bool.false_ne_true]

end ScopedStyles.ScopeImport
