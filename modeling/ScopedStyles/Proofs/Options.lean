import ScopedStyles.Options
import ScopedStyles.Proofs.Json

/-! # Options as JSON

A value may spell the same options in several ways: a list that is not given is left out or `null`,
the fields may stand in an array instead of an object, and other members are ignored.  The reader
accepts exactly these spellings (`Options.ofJson_eq_ok_iff`), and the JSON form that is written for
options is one of them, whatever the order of its two members (`Options.spelling_of_perm`).  So
nothing is lost between writing and reading, and writing what was read brings all spellings of the
same options to one (`Options.survive_serialisation`). -/

namespace ScopedStyles

open Json (bind_eq_ok_iff map_eq_ok_iff)

/-! ### Patterns -/

namespace FilterPattern

/-- The values that stand for a pattern. -/
inductive Spelling : Json → FilterPattern → Prop
  | glob (t : String) : Spelling (.string t) (.glob t)
  | regex {ms : List (String × Json)} {t : String} :
      Json.member? ms "regex" = some (.string t) → Spelling (.object ms) (.regex t)

theorem ofJson_eq_ok_iff {v : Json} {p : FilterPattern} : ofJson v = .ok p ↔ Spelling v p := by
  constructor
  · intro h
    unfold ofJson at h
    split at h
    · cases h
      exact .glob _
    · split at h
      · rename_i hm
        cases h
        exact .regex hm
      · cases h
    · cases h
  · rintro (t | hm)
    · rfl
    · unfold ofJson
      simp only [hm]

theorem spelling_toJson (p : FilterPattern) : Spelling p.toJson p := by
  cases p with
  | glob t => exact .glob t
  | regex t => exact .regex rfl

end FilterPattern

namespace Options

/-! ### Lists -/

/-- What stands for a list, where a place may be empty. -/
inductive ListSpelling : Option Json → Option (List FilterPattern) → Prop
  | missing : ListSpelling none none
  | null : ListSpelling (some .null) none
  | array {vs : List Json} {ps : List FilterPattern} :
      List.Forall₂ FilterPattern.Spelling vs ps → ListSpelling (some (.array vs)) (some ps)

theorem asList_eq_ok_iff {v : Json} {ps : List FilterPattern} :
    v.asList FilterPattern.ofJson = .ok ps ↔
      ∃ vs, v = .array vs ∧ List.Forall₂ FilterPattern.Spelling vs ps := by
  constructor
  · intro h
    unfold Json.asList at h
    split at h
    · simp only [Json.items_eq_ok_iff, FilterPattern.ofJson_eq_ok_iff] at h
      exact ⟨_, rfl, h⟩
    · cases h
  · rintro ⟨vs, rfl, h⟩
    simpa only [Json.asList, Json.items_eq_ok_iff, FilterPattern.ofJson_eq_ok_iff] using h

theorem readList_eq_ok_iff {v : Json} {l : Option (List FilterPattern)} :
    readList v = .ok l ↔ ListSpelling (some v) l := by
  constructor
  · intro h
    unfold readList at h
    split at h
    · cases h
      exact .null
    · obtain ⟨ps, hps, rfl⟩ := map_eq_ok_iff.mp h
      obtain ⟨vs, rfl, hvs⟩ := asList_eq_ok_iff.mp hps
      exact .array hvs
  · rintro (_ | _ | hvs)
    · rfl
    · exact map_eq_ok_iff.mpr ⟨_, asList_eq_ok_iff.mpr ⟨_, rfl, hvs⟩, rfl⟩

theorem elim_readList_eq_ok_iff {w : Option Json} {l : Option (List FilterPattern)} :
    w.elim (.ok none) readList = .ok l ↔ ListSpelling w l := by
  cases w with
  | some v => exact readList_eq_ok_iff
  | none =>
      constructor
      · intro h
        cases h
        exact .missing
      · rintro ⟨⟩
        rfl

theorem fieldOr_eq_ok_iff {ms : List (String × Json)} {name : String}
    {l : Option (List FilterPattern)} : Json.fieldOr ms name none readList = .ok l ↔
      ListSpelling (Json.member? ms name) l := by
  rw [Json.fieldOr_eq_elim]
  exact elim_readList_eq_ok_iff

theorem readPlace_eq_elim (vs : List Json) (i : Nat) :
    readPlace vs i = vs[i]?.elim (.ok none) readList := by
  unfold readPlace
  cases vs[i]? <;> rfl

theorem readPlace_eq_ok_iff {vs : List Json} {i : Nat} {l : Option (List FilterPattern)} :
    readPlace vs i = .ok l ↔ ListSpelling vs[i]? l := by
  rw [readPlace_eq_elim]
  exact elim_readList_eq_ok_iff

/-! ### Options -/

/-- The values that stand for options. -/
inductive Spelling : Json → Options → Prop
  | object {ms : List (String × Json)} {o : Options} :
      ListSpelling (Json.member? ms "include") o.includes →
      ListSpelling (Json.member? ms "exclude") o.excludes → Spelling (.object ms) o
  | array {vs : List Json} {o : Options} : vs.length ≤ 2 →
      ListSpelling vs[0]? o.includes → ListSpelling vs[1]? o.excludes → Spelling (.array vs) o

theorem check_members {ms : List (String × Json)} {o : Options}
    (hi : ListSpelling (Json.member? ms "include") o.includes)
    (he : ListSpelling (Json.member? ms "exclude") o.excludes) :
    Json.checkMembers check ms ms = .ok () := by
  rw [Json.checkMembers_eq_ok_iff]
  intro p _ v hv
  -- Only the two lists are checked, and what counts for them is what is read for them later.
  unfold check
  split
  · rename_i hname
    rw [Json.discard_eq_ok_iff]
    rcases hname with hname | hname
    · rw [← hname, hv] at hi
      exact ⟨_, readList_eq_ok_iff.mpr hi⟩
    · rw [← hname, hv] at he
      exact ⟨_, readList_eq_ok_iff.mpr he⟩
  · rfl

/-- The reader accepts the spellings of options and nothing else. -/
theorem ofJson_eq_ok_iff {v : Json} {o : Options} : ofJson v = .ok o ↔ Spelling v o := by
  constructor
  · intro h
    unfold ofJson at h
    split at h
    · obtain ⟨-, -, h⟩ := bind_eq_ok_iff.mp h
      obtain ⟨includes, hi, h⟩ := bind_eq_ok_iff.mp h
      obtain ⟨excludes, he, h⟩ := bind_eq_ok_iff.mp h
      cases h
      exact .object (fieldOr_eq_ok_iff.mp hi) (fieldOr_eq_ok_iff.mp he)
    · obtain ⟨includes, hi, h⟩ := bind_eq_ok_iff.mp h
      obtain ⟨excludes, he, h⟩ := bind_eq_ok_iff.mp h
      obtain ⟨⟨⟩, hlen, h⟩ := bind_eq_ok_iff.mp h
      cases h
      exact .array (Json.noFurther_eq_ok_iff.mp hlen) (readPlace_eq_ok_iff.mp hi)
        (readPlace_eq_ok_iff.mp he)
    · cases h
  · rintro (⟨hi, he⟩ | ⟨hlen, hi, he⟩)
    · exact bind_eq_ok_iff.mpr ⟨(), check_members hi he, bind_eq_ok_iff.mpr
        ⟨_, fieldOr_eq_ok_iff.mpr hi, bind_eq_ok_iff.mpr ⟨_, fieldOr_eq_ok_iff.mpr he, rfl⟩⟩⟩
    · exact bind_eq_ok_iff.mpr ⟨_, readPlace_eq_ok_iff.mpr hi, bind_eq_ok_iff.mpr
        ⟨_, readPlace_eq_ok_iff.mpr he, bind_eq_ok_iff.mpr
          ⟨(), Json.noFurther_eq_ok_iff.mpr hlen, rfl⟩⟩⟩

/-! ### What is written -/

def listJson (ps : List FilterPattern) : Json := .array (ps.map FilterPattern.toJson)

def members (o : Options) : List (String × Json) :=
  listMember "include" o.includes ++ listMember "exclude" o.excludes

theorem member?_include (o : Options) :
    Json.member? o.members "include" = o.includes.map listJson := by
  rcases o with ⟨_ | ps, _ | qs⟩ <;> rfl

theorem member?_exclude (o : Options) :
    Json.member? o.members "exclude" = o.excludes.map listJson := by
  rcases o with ⟨_ | ps, _ | qs⟩ <;> rfl

theorem nodup_members (o : Options) : (o.members.map (·.1)).Nodup := by
  rcases o with ⟨_ | ps, _ | qs⟩ <;> simp [members, listMember]

theorem listSpelling_map (l : Option (List FilterPattern)) : ListSpelling (l.map listJson) l := by
  cases l with
  | none => exact .missing
  | some ps =>
      refine .array ?_
      rw [List.forall₂_map_left_iff, List.forall₂_same]
      exact fun p _ => p.spelling_toJson

theorem spelling_of_perm {o : Options} {ms : List (String × Json)} (h : ms.Perm o.members) :
    Spelling (.object ms) o := by
  have hn : (ms.map (·.1)).Nodup := (h.map _).nodup_iff.mpr o.nodup_members
  constructor
  · rw [Json.member?_perm h hn, member?_include]
    exact listSpelling_map _
  · rw [Json.member?_perm h hn, member?_exclude]
    exact listSpelling_map _

theorem ofJson_toJson (o : Options) : ofJson o.toJson = .ok o :=
  ofJson_eq_ok_iff.mpr (spelling_of_perm (List.Perm.refl o.members))

/-- A list that is not given is not written, and an empty one is written as an empty array. -/
theorem map_listJson_iff (l : Option (List FilterPattern)) :
    (l.map listJson = none ↔ l = none) ∧ (l.map listJson = some (.array []) ↔ l = some []) := by
  rcases l with _ | _ | ⟨p, ps⟩ <;> simp [listJson]

/-! ### The main statement -/

/-- One round: a value is read, and what was read is written. -/
def normalise (v : Json) : Json.Decoded Json := toJson <$> ofJson v

/-- **Options survive serialisation.**  What is written for options is read back as these options
and no others, whatever the order of its members.  A list has a member in it exactly if it is given,
and an empty array exactly if it is given and empty; a pattern is read back as this pattern and no
other.  Whatever value options were read from, one round brings it to the value that is written for
them, and a further round leaves this value as it is. -/
theorem survive_serialisation :
    (∀ o o' : Options, ofJson o.toJson = .ok o' ↔ o' = o) ∧
    (∀ (o : Options) (ms ns : List (String × Json)), o.toJson = .object ms → ns.Perm ms →
      ofJson (.object ns) = .ok o) ∧
    (∀ o : Options,
      (o.toJson.get? "include" = none ↔ o.includes = none) ∧
      (o.toJson.get? "include" = some (.array []) ↔ o.includes = some []) ∧
      (o.toJson.get? "exclude" = none ↔ o.excludes = none) ∧
      (o.toJson.get? "exclude" = some (.array []) ↔ o.excludes = some [])) ∧
    (∀ p q : FilterPattern, FilterPattern.ofJson p.toJson = .ok q ↔ q = p) ∧
    ∀ (v : Json) (o : Options), ofJson v = .ok o →
      ofJson o.toJson = .ok o ∧ normalise v = .ok o.toJson ∧
        normalise o.toJson = .ok o.toJson := by
  have hround (o : Options) : normalise o.toJson = .ok o.toJson :=
    map_eq_ok_iff.mpr ⟨o, o.ofJson_toJson, rfl⟩
  refine ⟨fun o o' => ?_, fun o ms ns hms hns => ?_, fun o => ?_, fun p q => ?_,
    fun v o h => ⟨o.ofJson_toJson, map_eq_ok_iff.mpr ⟨o, h, rfl⟩, hround o⟩⟩
  · rw [ofJson_toJson, Except.ok.injEq, eq_comm]
  · obtain rfl : o.members = ms := Json.object.inj hms
    exact ofJson_eq_ok_iff.mpr (spelling_of_perm hns)
  · obtain ⟨hi, hi'⟩ := map_listJson_iff o.includes
    obtain ⟨he, he'⟩ := map_listJson_iff o.excludes
    rw [← member?_include] at hi hi'
    rw [← member?_exclude] at he he'
    exact ⟨hi, hi', he, he'⟩
  · rw [FilterPattern.ofJson_eq_ok_iff.mpr p.spelling_toJson, Except.ok.injEq, eq_comm]

/-- Options in an array, with a pattern that has a member more than it needs, come out of one round
as an object; and an object is read whose members stand the other way round. -/
theorem survive_serialisation_array :
    ofJson (.array [.null, .array [.string "", .object [("x", .null), ("regex", .string "b")]]]) =
      .ok ⟨none, some [.glob "", .regex "b"]⟩ ∧
    normalise (.array [.null,
        .array [.string "", .object [("x", .null), ("regex", .string "b")]]]) =
      .ok (.object [("exclude", .array [.string "", .object [("regex", .string "b")]])]) ∧
    ofJson (.object [("exclude", .array []), ("include", .array [.string "a"])]) =
      .ok ⟨some [.glob "a"], some []⟩ := by
  have hread : ofJson (.array [.null,
      .array [.string "", .object [("x", .null), ("regex", .string "b")]]]) =
      .ok ⟨none, some [.glob "", .regex "b"]⟩ := rfl
  refine ⟨hread, (survive_serialisation.2.2.2.2 _ _ hread).2.1, ?_⟩
  exact survive_serialisation.2.1 ⟨some [.glob "a"], some []⟩ _ _ rfl (List.Perm.swap _ _ _)

end Options
end ScopedStyles
