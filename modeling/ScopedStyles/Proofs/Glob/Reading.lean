import ScopedStyles.Glob.Anchor
import ScopedStyles.Glob.Syntax

/-! # Reading globs

All that the reader of globs can do in one step is said once (`State.Takes`), and reading a glob is
one step after another to its end (`parse_eq_ok_iff`).

What was read before lies under what is read now: a state stands on the parts `P` if they come
before all others, outside every choice (`State.onto`).  From there every step is taken as before
(`State.Takes.onto`), but for a run of stars that nothing precedes, which a glob can only start
with.  So a glob that does not start with two stars is read below a directory as it is read alone,
behind the parts that stand for the directory (`parse_below`). -/

namespace ScopedStyles.Glob

/-! ### Steps -/

/-- The characters that a glob does not read as themselves. -/
def reserved : List Char := ['?', '*', '[', '\x7b', '\x7d', ',', '\\']

/-- `Adds outside c rest p d rest'`: at the character `c`, with `rest` behind it, the part `p` is
read, up to and with the character `d`; `outside` says that no choice is open. -/
inductive Adds (outside : Bool) : Char → List Char → Part → Char → List Char → Prop
  | any (rest : List Char) : Adds outside '?' rest .any '?' rest
  | star {rest : List Char} : (∀ r, rest ≠ '*' :: r) → Adds outside '*' rest .star '*' rest
  | oneOf {rest rest' : List Char} {p : Part} :
      classPart rest = .ok (p, rest') → Adds outside '[' rest p ']' rest'
  | comma (rest : List Char) : outside = true → Adds outside ',' rest (.literal ',') ',' rest
  | escaped (d : Char) (rest : List Char) : Adds outside '\\' (d :: rest) (.literal d) d rest
  | plain {c : Char} (rest : List Char) : c ∉ reserved → Adds outside c rest (.literal c) c rest

namespace State

/-- The choice that ends here, with its last alternative. -/
def choice (s : State) (f : Frame) : Part := .choice ((s.parts.reverse :: f.finished).reverse)

/-- All that one step can do. -/
inductive Takes (s : State) : Char → List Char → State → List Char → Prop
  | add {c d : Char} {rest rest' : List Char} {p : Part} :
      Adds s.frames.isEmpty c rest p d rest' → Takes s c rest (s.add p d) rest'
  | stars (rest : List Char) :
      Takes s '*' ('*' :: rest) (s.takeStars rest).1 (s.takeStars rest).2
  | enter (rest : List Char) :
      Takes s '\x7b' rest ⟨⟨s.parts, []⟩ :: s.frames, [], some '\x7b'⟩ rest
  | leave {f : Frame} {frames : List Frame} (rest : List Char) : s.frames = f :: frames →
      Takes s '\x7d' rest ⟨frames, s.choice f :: f.before, some '\x7d'⟩ rest
  | next {f : Frame} {frames : List Frame} (rest : List Char) : s.frames = f :: frames →
      Takes s ',' rest
        ⟨{ f with finished := s.parts.reverse :: f.finished } :: frames, [], some ','⟩ rest

theorem takes_of_take {s s' : State} {c : Char} {rest rest' : List Char}
    (h : s.take c rest = .ok (s', rest')) : s.Takes c rest s' rest' := by
  unfold take at h
  split at h
  · cases h
    exact .add (.any _)
  · split at h
    · obtain ⟨rfl, rfl⟩ := Prod.ext_iff.mp (Except.ok.inj h)
      exact .stars _
    · rename_i hno
      cases h
      exact .add (.star fun r hr => hno r hr)
  · cases hp : classPart rest with
    | error f =>
        rw [hp] at h
        cases h
    | ok q =>
        rw [hp] at h
        cases h
        exact .add (.oneOf hp)
  · cases h
    exact .enter _
  · split at h
    · cases h
    · rename_i f frames hf
      cases h
      exact .leave _ hf
  · split at h
    · rename_i hf
      cases h
      exact .add (.comma _ (by rw [hf]; rfl))
    · rename_i f frames hf
      cases h
      exact .next _ hf
  · split at h
    · cases h
    · cases h
      exact .add (.escaped _ _)
  · rename_i h₁ h₂ h₃ h₄ h₅ h₆ h₇
    cases h
    refine .add (.plain _ ?_)
    simp only [reserved, List.mem_cons, List.not_mem_nil, or_false, not_or]
    exact ⟨h₁, h₂, h₃, h₄, h₅, h₆, h₇⟩

theorem take_of_takes {s s' : State} {c : Char} {rest rest' : List Char}
    (h : s.Takes c rest s' rest') : s.take c rest = .ok (s', rest') := by
  cases h with
  | add ha =>
      cases ha with
      | any _ => rfl
      | star hno =>
          simp only [take]
      | oneOf hp =>
          simp only [take, hp]
          rfl
      | comma _ hf =>
          rw [List.isEmpty_iff] at hf
          simp only [take, hf]
      | escaped _ _ => rfl
      | plain _ hc =>
          simp only [reserved, List.mem_cons, List.not_mem_nil, or_false, not_or] at hc
          obtain ⟨h₁, h₂, h₃, h₄, h₅, h₆, h₇⟩ := hc
          unfold take
          split
          · exact absurd rfl h₁
          · exact absurd rfl h₂
          · exact absurd rfl h₃
          · exact absurd rfl h₄
          · exact absurd rfl h₅
          · exact absurd rfl h₆
          · exact absurd rfl h₇
          · rfl
  | stars rest => rfl
  | enter rest => rfl
  | leave rest hf =>
      simp only [take, hf]
      rfl
  | next rest hf => simp only [take, hf]

theorem take_eq_ok_iff {s s' : State} {c : Char} {rest rest' : List Char} :
    s.take c rest = .ok (s', rest') ↔ s.Takes c rest s' rest' :=
  ⟨takes_of_take, take_of_takes⟩

/-! ### Whole globs -/

/-- The glob `text`, read in a state, ends in the given parts. -/
inductive Reads : State → List Char → List Part → Prop
  | done {s : State} : s.frames = [] → Reads s [] s.parts.reverse
  | step {s s' : State} {c : Char} {rest rest' : List Char} {ps : List Part} :
      s.Takes c rest s' rest' → Reads s' rest' ps → Reads s (c :: rest) ps

end State

/-! ### Reading comes to an end -/

theorem length_classMembers {s : ClassState} {text rest : List Char} {rs : List (Char × Char)}
    (h : classMembers s text = .ok (rs, rest)) : rest.length < text.length := by
  induction text generalizing s with
  | nil => cases h
  | cons c text ih =>
      rw [List.length_cons, Nat.lt_succ_iff]
      unfold classMembers at h
      split at h
      · exact Nat.le_of_lt (ih h)
      · split at h
        · cases h
          exact Nat.le_refl _
        · split at h
          · exact Nat.le_of_lt (ih h)
          · cases ht : s.take c with
            | error f =>
                rw [ht] at h
                cases h
            | ok s' =>
                rw [ht] at h
                exact Nat.le_of_lt (ih h)

/-- A class is a part of its own kind, and takes up a part of the text. -/
theorem classPart_cases {text rest : List Char} {p : Part} (h : classPart text = .ok (p, rest)) :
    (∃ negated ranges, p = .oneOf negated ranges) ∧ rest.length ≤ text.length := by
  have members {negated : Bool} {text' : List Char} (hlen : text'.length ≤ text.length)
      (hm : (classMembers ⟨[], false⟩ text' >>= fun q => .ok (.oneOf negated q.1, q.2)) =
        .ok (p, rest)) :
      (∃ negated ranges, p = .oneOf negated ranges) ∧ rest.length ≤ text.length := by
    cases hc : classMembers ⟨[], false⟩ text' with
    | error f =>
        rw [hc] at hm
        cases hm
    | ok q =>
        rw [hc] at hm
        cases hm
        exact ⟨⟨_, _, rfl⟩, Nat.le_trans (Nat.le_of_lt (length_classMembers hc)) hlen⟩
  unfold classPart at h
  cases text with
  | nil => exact members (Nat.le_refl _) h
  | cons c text =>
      simp only at h
      split at h
      · exact members (Nat.le_succ _) h
      · exact members (Nat.le_refl _) h

theorem Adds.ne_leading {outside : Bool} {c d : Char} {rest rest' : List Char} {p : Part}
    (h : Adds outside c rest p d rest') : p ≠ .leading := by
  cases h with
  | oneOf hp =>
      obtain ⟨⟨negated, ranges, rfl⟩, -⟩ := classPart_cases hp
      nofun
  | _ => nofun

namespace State

/-- All that two stars can do: no more than one after another, or a run of directories that starts
the parts or takes the place of the last of them. -/
theorem takeStars_cases (s : State) (rest : List Char) : s.takeStars rest = (s.addStars, rest) ∨
    ∃ parts c rest', s.takeStars rest = ({ s with parts := parts, prev := some c }, rest') ∧
      rest'.length ≤ rest.length ∧
      (s.parts = [] ∧ parts = [.leading] ∨
        ∃ last before atEnd, s.parts = last :: before ∧ parts = joined last before atEnd) := by
  obtain ⟨frames, parts, prev⟩ := s
  cases parts with
  | nil =>
      dsimp only [takeStars]
      split
      · exact .inr ⟨_, _, _, rfl, Nat.le_refl _, .inl ⟨rfl, rfl⟩⟩
      · split
        · exact .inr ⟨_, _, _, rfl, Nat.le_succ _, .inl ⟨rfl, rfl⟩⟩
        · exact .inl rfl
  | cons last before =>
      dsimp only [takeStars]
      split
      · exact .inl rfl
      · split
        · exact .inr ⟨_, _, _, rfl, Nat.le_refl _, .inr ⟨_, _, _, rfl, rfl⟩⟩
        · split
          · exact .inr ⟨_, _, _, rfl, Nat.le_refl _, .inr ⟨_, _, _, rfl, rfl⟩⟩
          · split
            · exact .inr ⟨_, _, _, rfl, Nat.le_succ _, .inr ⟨_, _, _, rfl, rfl⟩⟩
            · exact .inl rfl

theorem length_takeStars (s : State) (rest : List Char) :
    (s.takeStars rest).2.length ≤ rest.length := by
  obtain h | ⟨_, _, _, h, hlen, -⟩ := takeStars_cases s rest
  · exact Nat.le_of_eq (congrArg (fun q => q.2.length) h)
  · rw [h]
    exact hlen

theorem Takes.length_le {s s' : State} {c : Char} {rest rest' : List Char}
    (h : s.Takes c rest s' rest') : rest'.length ≤ rest.length := by
  cases h with
  | add ha =>
      cases ha with
      | oneOf hp => exact (classPart_cases hp).2
      | escaped d rest => exact Nat.le_succ _
      | _ => exact Nat.le_refl _
  | stars rest => exact Nat.le_trans (length_takeStars s rest) (Nat.le_succ _)
  | _ => exact Nat.le_refl _

theorem readParts_eq_ok_iff {n : Nat} {s : State} {text : List Char} {ps : List Part}
    (h : text.length < n) : readParts n s text = .ok ps ↔ Reads s text ps := by
  induction n generalizing s text with
  | zero => exact absurd h (Nat.not_lt_zero _)
  | succ n ih =>
      cases text with
      | nil =>
          simp only [readParts]
          constructor
          · intro h
            split at h
            · rename_i hf
              cases h
              exact .done (List.isEmpty_iff.mp hf)
            · cases h
          · rintro ⟨hf⟩
            rw [hf]
            rfl
      | cons c rest =>
          simp only [readParts]
          constructor
          · intro h
            cases ht : s.take c rest with
            | error f =>
                rw [ht] at h
                cases h
            | ok q =>
                rw [ht] at h
                have hs := take_eq_ok_iff.mp ht
                exact .step hs ((ih (by have := hs.length_le; simp at *; omega)).mp h)
          · intro h
            cases h with
            | step hs hr =>
                rw [take_eq_ok_iff.mpr hs]
                exact (ih (by have := hs.length_le; simp at *; omega)).mpr hr

end State

/-- Reading a glob is one step after another, to its end. -/
theorem parse_eq_ok_iff {text : List Char} {ps : List Part} :
    parse text = .ok ps ↔ State.Reads .start text ps :=
  State.readParts_eq_ok_iff (Nat.lt_succ_self _)

/-! ### Reading on top of other parts -/

/-- Parts with `P` below them, unless they stand in a choice. -/
def partsOnto (P parts : List Part) : List Frame → List Part
  | [] => parts ++ P
  | _ :: _ => parts

/-- Open choices with `P` below the parts before the outermost of them. -/
def framesOnto (P : List Part) : List Frame → List Frame
  | [] => []
  | f :: frames => { f with before := partsOnto P f.before frames } :: framesOnto P frames

/-- The state with the parts `P` below all others. -/
def State.onto (P : List Part) (s : State) : State :=
  ⟨framesOnto P s.frames, partsOnto P s.parts s.frames, s.prev⟩

theorem partsOnto_cons (P : List Part) (p : Part) (parts : List Part) (frames : List Frame) :
    partsOnto P (p :: parts) frames = p :: partsOnto P parts frames := by
  cases frames <;> rfl

theorem isEmpty_framesOnto (P : List Part) (frames : List Frame) :
    (framesOnto P frames).isEmpty = frames.isEmpty := by
  cases frames <;> rfl

namespace State

theorem takeStars_onto {s : State} (h : s.frames = [] → s.parts ≠ []) (P : List Part)
    (rest : List Char) : (s.onto P).takeStars rest =
      ((s.takeStars rest).1.onto P, (s.takeStars rest).2) := by
  obtain ⟨frames, parts, prev⟩ := s
  cases parts with
  | nil =>
      cases frames with
      | nil => exact absurd rfl (h rfl)
      | cons f frames =>
          cases rest with
          | nil => rfl
          | cons c rest =>
              simp only [takeStars, onto, partsOnto]
              split <;> rfl
  | cons last before =>
      have hjoined (atEnd : Bool) : joined last (partsOnto P before frames) atEnd =
          partsOnto P (joined last before atEnd) frames := by
        cases last <;> exact (partsOnto_cons P _ before frames).symm
      simp only [takeStars, onto, partsOnto_cons, isEmpty_framesOnto, hjoined]
      split
      · simp only [addStars, partsOnto_cons]
      · cases rest with
        | nil => rfl
        | cons c rest =>
            simp only
            split
            · rfl
            · split
              · rfl
              · simp only [addStars, partsOnto_cons]

theorem onto_add (P : List Part) (s : State) (p : Part) (d : Char) :
    (s.add p d).onto P = (s.onto P).add p d := by
  simp only [add, onto, partsOnto_cons]

/-- Two stars are read. -/
def DoubleStar (c : Char) (rest : List Char) : Prop := c = '*' ∧ ∃ r, rest = '*' :: r

/-- A step is the same on top of other parts, but for two stars that start a glob. -/
theorem Takes.onto {s s' : State} {c : Char} {rest rest' : List Char} (h : s.Takes c rest s' rest')
    (hstars : DoubleStar c rest → s.frames = [] → s.parts ≠ []) (P : List Part) :
    (s.onto P).Takes c rest (s'.onto P) rest' := by
  obtain ⟨frames, parts, prev⟩ := s
  cases h with
  | add ha =>
      rw [onto_add]
      exact .add (by rwa [State.onto, isEmpty_framesOnto])
  | stars rest =>
      have htake := takeStars_onto (hstars ⟨rfl, rest, rfl⟩) P rest
      have hstep := Takes.stars (s := (State.mk frames parts prev).onto P) rest
      rwa [htake] at hstep
  | enter rest => exact .enter rest
  | @leave f frames' rest hf =>
      obtain rfl := hf
      have hparts :=
        partsOnto_cons P ((State.mk (f :: frames') parts prev).choice f) f.before frames'
      simp only [State.onto, hparts]
      exact .leave (s := (State.mk (f :: frames') parts prev).onto P) rest rfl
  | @next f frames' rest hf =>
      obtain rfl := hf
      exact .next (s := (State.mk (f :: frames') parts prev).onto P) rest rfl

/-- The character before matters to two stars only. -/
theorem Takes.after {s s' : State} {c : Char} {rest rest' : List Char}
    (h : s.Takes c rest s' rest') (hstars : ¬ DoubleStar c rest) (q : Option Char) :
    Takes { s with prev := q } c rest s' rest' := by
  cases h with
  | add ha => exact .add (s := { s with prev := q }) ha
  | stars rest => exact absurd ⟨rfl, rest, rfl⟩ hstars
  | enter rest => exact .enter rest
  | leave rest hf => exact .leave rest hf
  | next rest hf => exact .next rest hf

/-! ### The first part -/

/-- The parts outside all choices. -/
def outermost (parts : List Part) : List Frame → List Part
  | [] => parts
  | f :: frames => outermost f.before frames

/-- What was read does not start with a run of directories. -/
def Grounded (s : State) : Prop := (outermost s.parts s.frames).getLast? ≠ some .leading

theorem grounded_cons {frames : List Frame} {parts : List Part} {o o' : Option Char}
    {p : Part} (hp : p ≠ .leading) (h : Grounded ⟨frames, parts, o⟩) :
    Grounded ⟨frames, p :: parts, o'⟩ := by
  cases frames with
  | cons f frames => exact h
  | nil =>
      cases parts with
      | nil => exact fun he => hp (Option.some.inj he)
      | cons q parts =>
          unfold Grounded at h ⊢
          rwa [outermost, List.getLast?_cons_cons]

theorem grounded_head {frames : List Frame} {parts : List Part} {prev prev' : Option Char}
    {p q : Part} (hp : p = .leading → q = .leading) (h : Grounded ⟨frames, q :: parts, prev⟩) :
    Grounded ⟨frames, p :: parts, prev'⟩ := by
  cases frames with
  | cons f frames => exact h
  | nil =>
      cases parts with
      | nil => exact fun he => h (congrArg some (hp (Option.some.inj he)))
      | cons r parts =>
          unfold Grounded at h ⊢
          rw [outermost, List.getLast?_cons_cons] at h ⊢
          exact h

theorem grounded_takeStars {s : State} (h : Grounded s) (hb : s.frames = [] → s.parts ≠ [])
    (rest : List Char) : Grounded (s.takeStars rest).1 ∧ (s.takeStars rest).1.frames = s.frames ∧
      (s.frames = [] → (s.takeStars rest).1.parts ≠ []) := by
  obtain hstars | ⟨parts', c, rest', htake, -, hparts⟩ := takeStars_cases s rest
  · rw [hstars]
    exact ⟨grounded_cons (o := s.prev) nofun (grounded_cons nofun h), rfl, nofun⟩
  rw [htake]
  obtain ⟨frames, parts, prev⟩ := s
  obtain ⟨rfl, rfl⟩ | ⟨last, before, atEnd, rfl, rfl⟩ := hparts
  · cases frames with
    | nil => exact absurd rfl (hb rfl)
    -- The parts outside all choices are as they were.
    | cons f frames => exact ⟨h, rfl, nofun⟩
  · obtain ⟨p, hp, hlast⟩ : ∃ p, joined last before atEnd = p :: before ∧
        (p = .leading → last = .leading) := by
      cases last <;> cases atEnd <;> exact ⟨_, rfl, by simp⟩
    rw [hp]
    exact ⟨grounded_head hlast h, rfl, nofun⟩

/-- After a step something was read, and it still does not start with a run of directories. -/
theorem Takes.grounded {s s' : State} {c : Char} {rest rest' : List Char}
    (h : s.Takes c rest s' rest') (hs : Grounded s)
    (hstars : DoubleStar c rest → s.frames = [] → s.parts ≠ []) :
    Grounded s' ∧ (s'.frames = [] → s'.parts ≠ []) := by
  obtain ⟨frames, parts, prev⟩ := s
  cases h with
  | add ha => exact ⟨grounded_cons ha.ne_leading hs, nofun⟩
  | stars rest =>
      obtain ⟨hg, hf, hp⟩ := grounded_takeStars hs (hstars ⟨rfl, rest, rfl⟩) rest
      exact ⟨hg, fun he => hp (hf.symm.trans he)⟩
  | enter rest => exact ⟨hs, nofun⟩
  | leave rest hf =>
      obtain rfl := hf
      exact ⟨grounded_cons (o := prev) nofun hs, nofun⟩
  | next rest hf =>
      obtain rfl := hf
      exact ⟨hs, nofun⟩

/-- What is read on top of other parts comes behind them. -/
theorem Reads.onto {s : State} {text : List Char} {ps : List Part} (h : Reads s text ps)
    (hs : Grounded s) (hb : s.frames = [] → s.parts ≠ []) (P : List Part) :
    Reads (s.onto P) text (P.reverse ++ ps) ∧ ps ≠ [.leading] := by
  induction h with
  | @done s hf =>
      obtain ⟨frames, parts, prev⟩ := s
      obtain rfl := hf
      constructor
      · rw [← List.reverse_append]
        exact .done (s := (State.mk [] parts prev).onto P) rfl
      · intro he
        have hparts : parts = [.leading] := by
          rw [← List.reverse_reverse parts, he]
          rfl
        exact hs (by rw [hparts]; rfl)
  | step ht _ ih =>
      obtain ⟨hs', hb'⟩ := ht.grounded hs fun _ => hb
      obtain ⟨hr, hne⟩ := ih hs' hb'
      exact ⟨.step (ht.onto (fun _ => hb) P) hr, hne⟩

/-- A glob that does not start with two stars is read behind a slash as it is read alone. -/
theorem Reads.under {g : List Char} {ps : List Part} (h : Reads .start g ps)
    (hg : ∀ r, g ≠ '*' :: '*' :: r) (P : List Part) (q : Option Char) :
    Reads ⟨[], P, q⟩ g (P.reverse ++ ps) ∧ ps ≠ [.leading] := by
  cases h with
  | done hf =>
      have hdone : Reads ⟨[], P, q⟩ [] P.reverse := .done rfl
      exact ⟨by simpa [start] using hdone, nofun⟩
  | @step _ s' c rest rest' _ ht hr =>
      have hno : ¬ DoubleStar c rest := by
        rintro ⟨rfl, r, rfl⟩
        exact hg r rfl
      obtain ⟨hs', hb'⟩ := ht.grounded nofun fun hd => absurd hd hno
      obtain ⟨hr', hne⟩ := hr.onto hs' hb' P
      have ht' := (ht.onto (fun hd => absurd hd hno) P).after hno q
      exact ⟨.step ht' hr', hne⟩

end State

/-! ### Literal texts -/

/-- The part that an escaped character is read as. -/
def literally (c : Char) : Part := if isSpecial c then .oneOf false [(c, c)] else .literal c

theorem literally_ne_leading (c : Char) : literally c ≠ .leading := by
  unfold literally
  split <;> nofun

theorem literally_append_ne_leading {s : List Char} (hs : s ≠ []) (ps : List Part) :
    s.map literally ++ ps ≠ [.leading] := by
  cases s with
  | nil => exact absurd rfl hs
  | cons c s => exact fun he => literally_ne_leading c (List.cons.inj he).1

namespace State

theorem classPart_special {c : Char} (hc : isSpecial c = true) (rest : List Char) :
    classPart (c :: ']' :: rest) = .ok (.oneOf false [(c, c)], rest) := by
  simp only [isSpecial, Bool.or_eq_true, decide_eq_true_eq] at hc
  rcases hc with ((((rfl | rfl) | rfl) | rfl) | rfl) | rfl <;> rfl

/-- An escaped text is read literally, outside of choices. -/
theorem reads_escape {ps : List Part} {rest : List Char} : ∀ (B : List Char) (parts : List Part)
    (prev : Option Char), '\\' ∉ B →
    (∀ prev', Reads ⟨[], (B.map literally).reverse ++ parts, prev'⟩ rest ps) →
    Reads ⟨[], parts, prev⟩ (escape B ++ rest) ps
  | [], _, prev, _, h => h prev
  | c :: B, parts, prev, hB, h => by
      rw [List.mem_cons, not_or] at hB
      have hrest (d : Char) : Reads ((State.mk [] parts prev).add (literally c) d)
          (escape B ++ rest) ps :=
        reads_escape B _ _ hB.2 (by simpa [add] using h)
      have hescape : escape (c :: B) ++ rest =
          (if isSpecial c then ['[', c, ']'] else [c]) ++ (escape B ++ rest) := by
        simp [escape]
      rw [hescape]
      unfold literally at hrest
      by_cases hc : isSpecial c = true
      · rw [if_pos hc] at hrest ⊢
        exact .step (.add (.oneOf (classPart_special hc _))) (hrest ']')
      · rw [if_neg hc] at hrest ⊢
        refine .step (.add ?_) (hrest c)
        by_cases hcomma : c = ','
        · rw [hcomma]
          exact .comma _ rfl
        · refine .plain _ ?_
          simp only [isSpecial, Bool.or_eq_true, decide_eq_true_eq, not_or] at hc
          simp only [reserved, List.mem_cons, List.not_mem_nil, or_false, not_or]
          exact ⟨hc.1.1.1.1.1, hc.1.1.1.1.2, hc.1.1.1.2, hc.1.2, hc.2, hcomma, Ne.symm hB.1⟩

end State

/-- Below a directory a glob is read as it is read alone, behind the parts that stand for the
directory literally; the glob alone is not all directories. -/
theorem parse_below {B g : List Char} {ps : List Part} (hB : '\\' ∉ B) (h : parse g = .ok ps)
    (hg : ∀ r, g ≠ '*' :: '*' :: r) :
    parse (escape B ++ '/' :: g) = .ok (B.map literally ++ .literal '/' :: ps) ∧
      ps ≠ [.leading] := by
  have hread := parse_eq_ok_iff.mp h
  refine ⟨parse_eq_ok_iff.mpr ?_, (hread.under hg [] none).2⟩
  refine State.reads_escape B [] none hB fun prev' => ?_
  refine .step (.add (.plain g (by decide))) ?_
  have hbelow := (hread.under hg (.literal '/' :: (B.map literally).reverse) (some '/')).1
  simpa [State.add] using hbelow

end ScopedStyles.Glob
