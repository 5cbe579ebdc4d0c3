import ScopedStyles.Proofs.Session.DefaultCandidates

/-! # The header of a stylesheet

A virtual stylesheet starts with a comment that names the source file, and its artifact should
follow (`Headed`).  A comment of a stylesheet ends where it is closed for the first time
(`Css.comment?`), and the id of the file stands in it as it is.  So the header is one comment
exactly if the id closes no comment; `Run.header_exact` says so of every token that is registered in
a run, and where the comment ends otherwise: inside the id, the rest of which is read as styles. -/

namespace ScopedStyles

variable {S : Type}

/-! ### Comments -/

namespace Css

/-- Some closing of a comment stands in the text. -/
def Closes (s : List Char) : Prop := ['*', '/'] <:+: s

instance (s : List Char) : Decidable (Closes s) := inferInstanceAs (Decidable (_ <:+: s))

/-- What precedes the first closing of a comment, and what follows it. -/
def closing? : List Char → Option (List Char × List Char)
  | '*' :: '/' :: rest => some ([], rest)
  | c :: s => (closing? s).map fun (text, rest) => (c :: text, rest)
  | [] => none

/-- The text of the comment that a stylesheet starts with, and what follows the comment. -/
def comment? : List Char → Option (List Char × List Char)
  | '/' :: '*' :: s => closing? s
  | _ => none

theorem closes_cons_iff {c : Char} {s : List Char} :
    Closes (c :: s) ↔ (c = '*' ∧ ['/'] <+: s) ∨ Closes s := by
  unfold Closes
  rw [List.infix_cons_iff, List.cons_prefix_cons, eq_comm]

theorem closes_append_iff {p s : List Char} (hp : '*' ∉ p) : Closes (p ++ s) ↔ Closes s := by
  induction p with
  | nil => rfl
  | cons c p ih =>
      rw [List.mem_cons, not_or] at hp
      rw [List.cons_append, closes_cons_iff, ih hp.2]
      exact or_iff_right fun h => hp.1 h.1.symm

theorem closes_concat_iff {s : List Char} {c : Char} (hc : c ≠ '/') :
    Closes (s ++ [c]) ↔ Closes s := by
  have hno : ¬ ['*', '/'] <:+ s ++ [c] := by
    intro h
    obtain ⟨t, ht⟩ := h
    have hlast := congrArg List.getLast? ht
    rw [List.getLast?_append, List.getLast?_concat] at hlast
    exact hc (Option.some.inj hlast).symm
  unfold Closes
  rw [List.infix_concat_iff]
  exact or_iff_right hno

theorem closing?_eq_some_iff {s text rest : List Char} : closing? s = some (text, rest) ↔
    s = text ++ '*' :: '/' :: rest ∧ ¬ Closes text := by
  induction s using closing?.induct generalizing text with
  | case1 tail =>
      simp only [closing?, Option.some.injEq, Prod.mk.injEq]
      constructor
      · rintro ⟨rfl, rfl⟩
        exact ⟨rfl, by decide⟩
      · rintro ⟨heq, hno⟩
        -- A longer text would begin with this closing.
        match text, heq with
        | [], heq => simpa using heq
        | [c], heq => simp at heq
        | c :: d :: text, heq =>
            simp only [List.cons_append, List.cons.injEq] at heq
            obtain ⟨rfl, rfl, -⟩ := heq
            exact absurd ⟨[], text, rfl⟩ hno
  | case2 c s hnot ih =>
      rw [closing?.eq_2 _ _ hnot]
      constructor
      · intro h
        obtain ⟨⟨text', rest'⟩, hs, hp⟩ := Option.map_eq_some_iff.mp h
        cases hp
        obtain ⟨rfl, hno⟩ := ih.mp hs
        refine ⟨rfl, fun hcloses => ?_⟩
        rcases closes_cons_iff.mp hcloses with ⟨rfl, tail, rfl⟩ | hcloses
        · exact hnot _ rfl rfl
        · exact hno hcloses
      · rintro ⟨heq, hno⟩
        cases text with
        | nil =>
            simp only [List.nil_append, List.cons.injEq] at heq
            exact absurd heq.2 (hnot _ heq.1)
        | cons d text =>
            simp only [List.cons_append, List.cons.injEq] at heq
            obtain ⟨rfl, rfl⟩ := heq
            have htext : ¬ Closes text := fun h => hno (closes_cons_iff.mpr (.inr h))
            rw [ih.mpr ⟨rfl, htext⟩]
            rfl
  | case3 => simp [closing?]

theorem comment?_eq_some_iff {s text rest : List Char} : comment? ('/' :: '*' :: s) =
    some (text, rest) ↔ s = text ++ '*' :: '/' :: rest ∧ ¬ Closes text :=
  closing?_eq_some_iff

end Css

/-! ### Headers -/

/-- The body is a line break, one comment that names the source, a line break and the artifact. -/
def Headed (body source artifact : List Char) : Prop :=
  ∃ text sheet, body = '\n' :: sheet ∧ Css.comment? sheet = some (text, '\n' :: artifact) ∧
    source <:+: text

namespace LoadedModule

variable {source artifact : List Char}

/-- What stands in front of the source in a header's comment. -/
def label : List Char := " miniwind ".toList

theorem closes_label_append_iff {s : List Char} : Css.Closes (label ++ s) ↔ Css.Closes s :=
  Css.closes_append_iff (by decide)

theorem code_ofEntry_eq (e : Entry) : (ofEntry e).code.toList =
    '\n' :: '/' :: '*' :: (label ++ e.source.toList ++ [' '] ++
      '*' :: '/' :: '\n' :: (e.artifact.getD "").toList) := by
  have hopen : "\n/* miniwind ".toList = '\n' :: '/' :: '*' :: label := by decide
  have hclose : " */\n".toList = [' ', '*', '/', '\n'] := by decide
  unfold ofEntry header
  rw [String.toList_ofList, hopen, hclose]
  simp

/-- The header is one comment if the source closes none, and only then. -/
theorem headed_iff {body : List Char} (hbody : body = '\n' :: '/' :: '*' ::
    (label ++ source ++ [' '] ++ '*' :: '/' :: '\n' :: artifact)) :
    Headed body source artifact ↔ ¬ Css.Closes source := by
  have hlabelled : Css.Closes (label ++ source ++ [' ']) ↔ Css.Closes source := by
    rw [Css.closes_concat_iff (by decide), closes_label_append_iff]
  constructor
  · rintro ⟨text, sheet, hsheet, hcomment, -⟩
    rw [hbody, List.cons.injEq] at hsheet
    obtain ⟨-, rfl⟩ := hsheet
    obtain ⟨heq, hno⟩ := Css.comment?_eq_some_iff.mp hcomment
    obtain rfl := List.append_cancel_right heq
    rwa [hlabelled] at hno
  · intro hno
    refine ⟨label ++ source ++ [' '], _, hbody, ?_, label, [' '], rfl⟩
    exact Css.comment?_eq_some_iff.mpr ⟨rfl, hlabelled.not.mpr hno⟩

/-- If the source closes a comment, the header ends there. -/
theorem comment?_of_closes {u v : List Char} (hu : ¬ Css.Closes u) (rest : List Char) :
    Css.comment? ('/' :: '*' :: (label ++ (u ++ '*' :: '/' :: v) ++ [' '] ++ rest)) =
      some (label ++ u, v ++ [' '] ++ rest) := by
  apply Css.comment?_eq_some_iff.mpr
  exact ⟨by simp, closes_label_append_iff.not.mpr hu⟩

end LoadedModule

/-! ### Registered files -/

/-- Every default candidate can come to be registered, with every artifact. -/
theorem Run.exists_registered (id artifact : String) (hid : IsDefaultCandidate id) :
    ∃ (f : Filter) (h : History String) (s : Session String),
      (∀ base, Filter.build .default base = .ok f) ∧ Run f h s ∧
        s.registry.get? (.ofIdentity id) = some ⟨id, some artifact⟩ := by
  obtain ⟨f, hbuild, haccepts⟩ := Filter.exists_default
  have hcandidate : (Session.fresh f : Session String).isCandidate id = true :=
    Session.isCandidate_iff.mpr ⟨hid.not_css, (haccepts id).mpr hid⟩
  have run₁ : Run f _ _ := (Run.fresh (S := String)).turn (e := .start 0 "" id)
    (Session.step_of_takes (.launch rfl hcandidate)) fun _ _ u hu => by cases hu
  have run₂ := run₁.turn (e := .generated 0 (.ok (some artifact)))
    (Session.step_of_takes (.settle (Session.flight?_fly_self _ _ _) (.inl (Option.some_ne_none _))
      (.inr rfl)))
    fun _ hn => by cases hn
  exact ⟨f, _, _, hbuild, run₂, Registry.get?_put_self _ _ _⟩

/-! ### The main statement -/

/-- **The header of a stylesheet.**  In a run every token that is registered has the entry of a file
that the filter accepts, and its address loads a body with a header.  The header is one comment and
nothing more exactly if the id of the file closes no comment.  Otherwise the comment ends at the
first closing in the id, and the rest of the id is read as part of the styles. -/
theorem Run.header_exact {filter : Filter} {h : History S} {s : Session S} (run : Run filter h s)
    {t : Token} (ht : t ∈ s.registry.tokens) : ∃ e m, s.registry.get? t = some e ∧
      Token.ofIdentity e.source = t ∧ filter.accepts e.source = true ∧
      s.registry.load (Address.ofToken t) = some m ∧
      (Headed m.code.toList e.source.toList (e.artifact.getD "").toList ↔
        ¬ Css.Closes e.source.toList) ∧
      ∀ u v, e.source.toList = u ++ '*' :: '/' :: v → ¬ Css.Closes u → ∃ sheet,
        m.code.toList = '\n' :: sheet ∧ Css.comment? sheet = some (" miniwind ".toList ++ u,
          v ++ " */\n".toList ++ (e.artifact.getD "").toList) := by
  obtain ⟨e, he⟩ := Registry.mem_tokens.mp ht
  have hload : s.registry.load (Address.ofToken t) = some (LoadedModule.ofEntry e) := by
    rw [Registry.load_ofToken, he, Option.elim_some]
  have hcode := LoadedModule.code_ofEntry_eq e
  refine ⟨e, _, he, (run.sound.token_eq t e he).symm, run.sound.accepted t e he, hload,
    LoadedModule.headed_iff hcode, fun u v huv hu => ?_⟩
  refine ⟨_, hcode, ?_⟩
  have hclose : " */\n".toList = [' ', '*', '/', '\n'] := by decide
  rw [huv, LoadedModule.comment?_of_closes hu, hclose, List.append_assoc, List.append_assoc]
  rfl

/-- A plain name, with a star in front of its dot. -/
theorem header_exact_plain : ∃ (f : Filter) (h : History String) (s : Session String)
    (m : LoadedModule), (∀ base, Filter.build .default base = .ok f) ∧ Run f h s ∧
      s.registry.load (Address.ofToken (.ofIdentity "/src/a*.ts")) = some m ∧
      Headed m.code.toList "/src/a*.ts".toList "x".toList := by
  obtain ⟨f, h, s, hbuild, run, he⟩ := Run.exists_registered "/src/a*.ts" "x" (by decide)
  obtain ⟨e, m, he', -, -, hload, hheaded, -⟩ :=
    run.header_exact (Registry.mem_tokens.mpr ⟨_, he⟩)
  obtain rfl := Option.some.inj (he'.symm.trans he)
  exact ⟨f, h, s, m, hbuild, run, hload, hheaded.mpr (by decide)⟩

/-- A directory whose name is a star closes the header. -/
theorem header_closed_by_directory : ∃ (f : Filter) (h : History String) (s : Session String)
    (m : LoadedModule), (∀ base, Filter.build .default base = .ok f) ∧ Run f h s ∧
      s.registry.get? (.ofIdentity "/src/*/a.ts") = some ⟨"/src/*/a.ts", some "x"⟩ ∧
      s.registry.load (Address.ofToken (.ofIdentity "/src/*/a.ts")) = some m ∧
      m.code = "\n/* miniwind /src/*/a.ts */\nx" ∧
      ¬ Headed m.code.toList "/src/*/a.ts".toList "x".toList ∧
      Css.comment? m.code.toList.tail = some (" miniwind /src/".toList, "a.ts */\nx".toList) := by
  obtain ⟨f, h, s, hbuild, run, he⟩ := Run.exists_registered "/src/*/a.ts" "x" (by decide)
  have hload : s.registry.load (Address.ofToken (.ofIdentity "/src/*/a.ts")) =
      some (LoadedModule.ofEntry ⟨"/src/*/a.ts", some "x"⟩) := by
    rw [Registry.load_ofToken, he, Option.elim_some]
  have hcode := LoadedModule.code_ofEntry_eq ⟨"/src/*/a.ts", some "x"⟩
  refine ⟨f, h, s, _, hbuild, run, he, hload, by decide, fun hheaded => ?_, by decide⟩
  exact (LoadedModule.headed_iff hcode).mp hheaded (by decide)

end ScopedStyles
