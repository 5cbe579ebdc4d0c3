import ScopedStyles.Proofs.Options

/-! # Which values are options

A value is valid (`Options.IsValid`) if the two lists in it are lists of patterns, `null`, or left
out.  `Options.ofJson_judged` says that the valid values are read, as the options that they spell,
and that every other value is refused for something in it that is at fault (`Options.Offends`),
wherever this stands.  Members of an object that are not its own are never looked at: a value is
read like the value without them (`Options.ofJson_bare`). -/

namespace ScopedStyles

/-! ### Valid values -/

namespace FilterPattern

/-- A text, or an object with a text as its member `regex`. -/
def IsSpelled : Json → Prop
  | .string _ => True
  | .object ms => ∃ t, Json.member? ms "regex" = some (.string t)
  | _ => False

theorem exists_spelling_iff {v : Json} : (∃ p, Spelling v p) ↔ IsSpelled v := by
  constructor
  · rintro ⟨p, t | hm⟩
    · trivial
    · exact ⟨_, hm⟩
  · intro h
    cases v with
    | string t => exact ⟨_, .glob t⟩
    | object ms =>
        obtain ⟨t, hm⟩ := h
        exact ⟨_, .regex hm⟩
    | _ => exact absurd h id

/-- A pattern is refused if it is none, and there is one fault for that. -/
theorem of_ofJson_eq_error {v : Json} {fault : Json.Fault} (h : ofJson v = .error fault) :
    ¬ IsSpelled v ∧ fault = .noAlternative "FilterPattern" := by
  constructor
  · intro hv
    obtain ⟨p, hp⟩ := exists_spelling_iff.mpr hv
    cases h.symm.trans (ofJson_eq_ok_iff.mpr hp)
  · unfold ofJson at h
    split at h
    · cases h
    · split at h <;> cases h
      rfl
    · cases h
      rfl

/-- A pattern without the members that are not its own. -/
def bare : Json → Json
  | .object ms => .object (ms.filter fun p => p.1 = "regex")
  | v => v

theorem ofJson_bare (v : Json) : ofJson (bare v) = ofJson v := by
  cases v with
  | object ms =>
      have hm : Json.member? (ms.filter fun p => p.1 = "regex") "regex" =
          Json.member? ms "regex" := Json.member?_filter (fun p hp => by simpa using hp) ms
      simp only [bare, ofJson, hm]
  | _ => rfl

end FilterPattern

namespace Options

/-- `null`, or a list of patterns. -/
def IsList : Json → Prop
  | .null => True
  | .array vs => ∀ v ∈ vs, FilterPattern.IsSpelled v
  | _ => False

/-- The names of an object's own members. -/
def ownNames : List String := ["include", "exclude"]

/-- An object whose own members are lists, as far as they are there, or an array of two lists at the
most. -/
def IsValid : Json → Prop
  | .object ms => ∀ name ∈ ownNames, ∀ v, Json.member? ms name = some v → IsList v
  | .array vs => vs.length ≤ 2 ∧ ∀ v ∈ vs, IsList v
  | _ => False

theorem exists_listSpelling_iff {w : Option Json} :
    (∃ l, ListSpelling w l) ↔ ∀ v, w = some v → IsList v := by
  have harray {vs : List Json} :
      (∃ ps, List.Forall₂ FilterPattern.Spelling vs ps) ↔ IsList (.array vs) := by
    simp only [Json.exists_forall₂_iff, FilterPattern.exists_spelling_iff, IsList]
  constructor
  · rintro ⟨l, _ | _ | hvs⟩ v hv <;> cases hv
    · trivial
    · exact harray.mp ⟨_, hvs⟩
  · intro h
    cases w with
    | none => exact ⟨none, .missing⟩
    | some v =>
        have hv := h v rfl
        cases v with
        | null => exact ⟨none, .null⟩
        | array vs =>
            obtain ⟨ps, hps⟩ := harray.mpr hv
            exact ⟨some ps, .array hps⟩
        | _ => exact absurd hv id

theorem isValid_array_iff {vs : List Json} : IsValid (.array vs) ↔ vs.length ≤ 2 ∧
    (∀ v, vs[0]? = some v → IsList v) ∧ ∀ v, vs[1]? = some v → IsList v := by
  refine and_congr_right fun hlen => ?_
  match vs, hlen with
  | [], _ => simp
  | [v], _ => simp
  | [v, w], _ => simp

theorem exists_spelling_iff {v : Json} : (∃ o, Spelling v o) ↔ IsValid v := by
  cases v with
  | object ms =>
      simp only [IsValid, ownNames, List.forall_mem_cons, List.not_mem_nil, false_implies,
        implies_true, and_true, ← exists_listSpelling_iff]
      constructor
      · rintro ⟨o, hi, he⟩
        exact ⟨⟨_, hi⟩, _, he⟩
      · rintro ⟨⟨includes, hi⟩, excludes, he⟩
        exact ⟨⟨includes, excludes⟩, .object hi he⟩
  | array vs =>
      simp only [isValid_array_iff, ← exists_listSpelling_iff]
      constructor
      · rintro ⟨o, _ | ⟨hlen, hi, he⟩⟩
        exact ⟨hlen, ⟨_, hi⟩, _, he⟩
      · rintro ⟨hlen, ⟨includes, hi⟩, excludes, he⟩
        exact ⟨⟨includes, excludes⟩, .array hlen hi he⟩
  | _ =>
      refine iff_of_false ?_ id
      rintro ⟨o, ⟨⟩⟩

/-! ### What is at fault -/

/-- What stands for one of the two lists in a value. -/
inductive Holds : Json → Json → Prop
  | member {ms : List (String × Json)} {name : String} {v : Json} : name ∈ ownNames →
      Json.member? ms name = some v → Holds (.object ms) v
  | item {vs : List Json} {i : Nat} {v : Json} : i < 2 → vs[i]? = some v → Holds (.array vs) v

/-- Why a value is no list. -/
inductive ListFault : Json → Json.Fault → Prop
  | kind {v : Json} : v ≠ .null → (∀ vs, v ≠ .array vs) → ListFault v (.wrongType v "a sequence")
  | pattern {vs : List Json} {v : Json} : v ∈ vs → ¬ FilterPattern.IsSpelled v →
      ListFault (.array vs) (.noAlternative "FilterPattern")

/-- Why a value is not valid: it is neither an object nor an array, it is an array that is too long,
or it holds something else than a list. -/
inductive Offends : Json → Json.Fault → Prop
  | kind {v : Json} : (∀ ms, v ≠ .object ms) → (∀ vs, v ≠ .array vs) →
      Offends v (.wrongType v "struct ModuleScopeOptions")
  | length {vs : List Json} : 2 < vs.length →
      Offends (.array vs) (.wrongLength vs.length "fewer elements in array")
  | list {v w : Json} {fault : Json.Fault} : Holds v w → ListFault w fault → Offends v fault

theorem listFault_of_readList {v : Json} {fault : Json.Fault} (h : readList v = .error fault) :
    ListFault v fault := by
  unfold readList at h
  split at h
  · cases h
  · rename_i hnull
    have hlist := Json.map_eq_error_iff.mp h
    cases v with
    | null => exact absurd rfl hnull
    | array vs =>
        obtain ⟨v, hv, hread⟩ := Json.exists_of_items_eq_error hlist
        obtain ⟨hno, rfl⟩ := FilterPattern.of_ofJson_eq_error hread
        exact .pattern hv hno
    | _ =>
        cases hlist
        exact .kind (by simp) (by simp)

theorem listFault_of_elim {w : Option Json} {fault : Json.Fault}
    (h : w.elim (.ok none) readList = .error fault) : ∃ v, w = some v ∧ ListFault v fault := by
  cases w with
  | none => cases h
  | some v => exact ⟨v, rfl, listFault_of_readList h⟩

/-- A value is refused for something that is at fault in it. -/
theorem offends_of_ofJson {v : Json} {fault : Json.Fault} (h : ofJson v = .error fault) :
    Offends v fault := by
  have hmember {ms : List (String × Json)} {name : String} (hname : name ∈ ownNames)
      (h : Json.fieldOr ms name none readList = .error fault) : Offends (.object ms) fault := by
    rw [Json.fieldOr_eq_elim] at h
    obtain ⟨w, hw, hfault⟩ := listFault_of_elim h
    exact .list (.member hname hw) hfault
  have hitem {vs : List Json} {i : Nat} (hi : i < 2) (h : readPlace vs i = .error fault) :
      Offends (.array vs) fault := by
    rw [readPlace_eq_elim] at h
    obtain ⟨w, hw, hfault⟩ := listFault_of_elim h
    exact .list (.item hi hw) hfault
  cases v with
  | object ms =>
      rcases Json.bind_eq_error_iff.mp h with h | ⟨-, -, h⟩
      · obtain ⟨name, w, hw, hcheck⟩ := Json.exists_of_checkMembers_eq_error h
        unfold check at hcheck
        split at hcheck
        · rename_i hname
          have hfault := listFault_of_readList (Json.map_eq_error_iff.mp hcheck)
          exact .list (.member (by simpa [ownNames] using hname) hw) hfault
        · cases hcheck
      · rcases Json.bind_eq_error_iff.mp h with h | ⟨includes, -, h⟩
        · exact hmember (by simp [ownNames]) h
        · rcases Json.bind_eq_error_iff.mp h with h | ⟨excludes, -, h⟩
          · exact hmember (by simp [ownNames]) h
          · cases h
  | array vs =>
      rcases Json.bind_eq_error_iff.mp h with h | ⟨includes, -, h⟩
      · exact hitem (by decide) h
      · rcases Json.bind_eq_error_iff.mp h with h | ⟨excludes, -, h⟩
        · exact hitem (by decide) h
        · rcases Json.bind_eq_error_iff.mp h with h | ⟨-, -, h⟩
          · unfold Json.noFurther at h
            split at h
            · cases h
            · rename_i hlen
              cases h
              exact .length (Nat.lt_of_not_le hlen)
          · cases h
  | _ =>
      cases h
      exact .kind (by simp) (by simp)

theorem ListFault.not_isList {v : Json} {fault : Json.Fault} (h : ListFault v fault) :
    ¬ IsList v := by
  intro hv
  cases h with
  | kind hnull harray =>
      cases v with
      | null => exact hnull rfl
      | array vs => exact harray vs rfl
      | _ => exact hv
  | pattern hmem hno => exact hno (hv _ hmem)

theorem Offends.not_isValid {v : Json} {fault : Json.Fault} (h : Offends v fault) :
    ¬ IsValid v := by
  intro hv
  cases h with
  | kind hobject harray =>
      cases v with
      | object ms => exact hobject ms rfl
      | array vs => exact harray vs rfl
      | _ => exact hv
  | length hlen => exact absurd hv.1 (by omega)
  | list hholds hfault =>
      refine hfault.not_isList ?_
      cases hholds with
      | member hname hw => exact hv _ hname _ hw
      | item _ hw => exact hv.2 _ (List.mem_of_getElem? hw)

/-! ### Without foreign members -/

/-- A list with bare patterns. -/
def bareList : Json → Json
  | .array vs => .array (vs.map FilterPattern.bare)
  | v => v

/-- The own members of an object, with bare patterns in their lists. -/
def bareMembers (ms : List (String × Json)) : List (String × Json) :=
  (ms.filter fun p => p.1 ∈ ownNames).map fun p => (p.1, bareList p.2)

/-- A value without the members that belong to nobody. -/
def bare : Json → Json
  | .object ms => .object (bareMembers ms)
  | .array vs => .array (vs.map bareList)
  | v => v

theorem readList_bareList (v : Json) : readList (bareList v) = readList v := by
  cases v with
  | array vs =>
      have hitems := Json.items_map FilterPattern.ofJson_bare vs
      show some <$> Json.items FilterPattern.ofJson (vs.map FilterPattern.bare) = _
      rw [hitems]
      rfl
  | _ => rfl

theorem elim_map_bareList {α : Type} (w : Option Json) (absent : Json.Decoded α)
    {read : Json → Json.Decoded α} (h : ∀ v, read (bareList v) = read v) :
    (w.map bareList).elim absent read = w.elim absent read := by
  cases w with
  | none => rfl
  | some v => exact h v

theorem member?_bareMembers {ms : List (String × Json)} {name : String} (h : name ∈ ownNames) :
    Json.member? (bareMembers ms) name = (Json.member? ms name).map bareList := by
  unfold bareMembers
  rw [Json.member?_map, Json.member?_filter (fun p hp => by simpa [hp] using h)]

theorem fieldOr_bareMembers {ms : List (String × Json)} {name : String} (h : name ∈ ownNames) :
    Json.fieldOr (bareMembers ms) name none readList = Json.fieldOr ms name none readList := by
  rw [Json.fieldOr_eq_elim, Json.fieldOr_eq_elim, member?_bareMembers h,
    elim_map_bareList _ _ readList_bareList]

theorem check_bareList (name : String) (v : Json) : check name (bareList v) = check name v := by
  unfold check
  rw [readList_bareList]

theorem checkMembers_bareMembers (ms : List (String × Json)) :
    Json.checkMembers check (bareMembers ms) (bareMembers ms) = Json.checkMembers check ms ms := by
  have hkept : Json.checkMembers check ms (ms.filter fun p => p.1 ∈ ownNames) =
      Json.checkMembers check ms ms := by
    refine Json.checkMembers_filter (fun p hp v => ?_) ms ms
    unfold check
    rw [if_neg (by simpa [ownNames] using hp)]
  rw [← hkept]
  refine Json.checkMembers_map fun p hp => ?_
  have hname : p.1 ∈ ownNames := by simpa using (List.mem_filter.mp hp).2
  rw [member?_bareMembers hname, elim_map_bareList _ _ (check_bareList p.1)]

theorem readPlace_map_bareList (vs : List Json) (i : Nat) :
    readPlace (vs.map bareList) i = readPlace vs i := by
  rw [readPlace_eq_elim, readPlace_eq_elim, List.getElem?_map,
    elim_map_bareList _ _ readList_bareList]

theorem ofJson_bare (v : Json) : ofJson (bare v) = ofJson v := by
  cases v with
  | object ms =>
      simp only [bare, ofJson, checkMembers_bareMembers,
        fieldOr_bareMembers (show "include" ∈ ownNames by simp [ownNames]),
        fieldOr_bareMembers (show "exclude" ∈ ownNames by simp [ownNames])]
  | array vs =>
      simp only [bare, ofJson, readPlace_map_bareList, Json.noFurther, List.length_map]
  | _ => rfl

/-! ### The main statement -/

/-- What becomes of a value that is read as options. -/
structure Judged (v : Json) : Prop where
  /-- It is read exactly if it is valid. -/
  accepted : (∃ o, ofJson v = .ok o) ↔ IsValid v
  /-- Then it is read as the options that it spells: a list is none if it is `null` or not there,
  and otherwise it has its patterns in their order, a glob for a text and a regular expression for
  an object. -/
  spelled : ∀ o, ofJson v = .ok o ↔ Spelling v o
  /-- Otherwise it is refused for something that is at fault in it. -/
  refused : ¬ IsValid v → ∃ fault, ofJson v = .error fault ∧ Offends v fault
  /-- Nothing is at fault in a valid value. -/
  faultless : IsValid v → ∀ fault, ¬ Offends v fault
  /-- Members that are not an object's own make no difference, neither to the options nor to the
  fault. -/
  foreign : ∀ w, bare w = bare v → ofJson w = ofJson v

/-- **Which values are options.** -/
theorem ofJson_judged (v : Json) : Judged v where
  accepted := by
    simp only [ofJson_eq_ok_iff, exists_spelling_iff]
  spelled _ := ofJson_eq_ok_iff
  refused hno := by
    cases h : ofJson v with
    | ok o => exact absurd (exists_spelling_iff.mp ⟨o, ofJson_eq_ok_iff.mp h⟩) hno
    | error fault => exact ⟨fault, rfl, offends_of_ofJson h⟩
  faultless hv _ hfault := hfault.not_isValid hv
  foreign w h := by
    rw [← ofJson_bare w, h, ofJson_bare]

/-- In the array form, a pattern of the second list is at fault, deep inside of it; and members that
belong to nobody stand in the options and in a pattern, one of them with a name that counts
elsewhere. -/
theorem ofJson_judged_deep :
    (∃ fault, ofJson (.array [.null, .array [.string "a", .object [("regex", .integer 3)]]]) =
        .error fault ∧
      Offends (.array [.null, .array [.string "a", .object [("regex", .integer 3)]]]) fault) ∧
    ofJson (.object [("exclude", .array [.object [("include", .null), ("regex", .string "b")]]),
        ("regex", .integer 3)]) =
      ofJson (.object [("exclude", .array [.object [("regex", .string "b")]])]) ∧
    ofJson (.object [("exclude", .array [.object [("regex", .string "b")]])]) =
      .ok ⟨none, some [.regex "b"]⟩ := by
  refine ⟨(ofJson_judged _).refused ?_, (ofJson_judged _).foreign _ rfl,
    ((ofJson_judged _).spelled _).mpr (.object .missing (.array (.cons (.regex rfl) .nil)))⟩
  rintro ⟨-, hlists⟩
  have hlist := hlists (.array [.string "a", .object [("regex", .integer 3)]]) (by simp)
  obtain ⟨t, ht⟩ := hlist (.object [("regex", .integer 3)]) (by simp)
  cases ht

end Options
end ScopedStyles
