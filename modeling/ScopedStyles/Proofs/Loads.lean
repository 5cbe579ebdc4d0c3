import ScopedStyles.Proofs.Registry

/-! # What a write changes for loads

A write concerns the loads of one address.  What is loaded there names the source and holds the
styles, and tells both apart from every other source and other styles
(`LoadedModule.ofEntry_eq_iff`), since the source is also the file to watch.  Absent styles are
served as empty ones, so a write that goes from the one to the other modifies the registry but no
load; every other modification is seen (`Registry.put_seen`). -/

namespace ScopedStyles

/-! ### Styles as they are served -/

namespace Entry

/-- The styles that are served for an entry: empty ones, if there are none. -/
def styles (e : Entry) : String := e.artifact.getD ""

/-- The entry has no styles, or empty ones. -/
def IsBlank (e : Entry) : Prop := e.artifact = none ∨ e.artifact = some ""

theorem isBlank_iff {e : Entry} : e.IsBlank ↔ e.styles = "" := by
  unfold IsBlank styles
  cases e.artifact <;> simp

theorem artifact_eq_of_not_isBlank {e : Entry} (h : ¬ e.IsBlank) : e.artifact = some e.styles := by
  unfold styles
  cases ha : e.artifact with
  | none => exact absurd (.inl ha) h
  | some text => rfl

/-- Entries serve the same styles if they have the same, or if both have no or empty ones. -/
theorem styles_eq_iff {e f : Entry} :
    e.styles = f.styles ↔ e.artifact = f.artifact ∨ e.IsBlank ∧ f.IsBlank := by
  constructor
  · intro h
    have hblank : e.IsBlank ↔ f.IsBlank := by
      rw [isBlank_iff, isBlank_iff, h]
    by_cases hf : f.IsBlank
    · exact .inr ⟨hblank.mpr hf, hf⟩
    · left
      rw [artifact_eq_of_not_isBlank hf, ← h, artifact_eq_of_not_isBlank (mt hblank.mp hf)]
  · rintro (h | ⟨he, hf⟩)
    · exact congrArg (·.getD "") h
    · rw [isBlank_iff.mp he, isBlank_iff.mp hf]

end Entry

namespace LoadedModule

theorem ofEntry_eq_iff {e f : Entry} :
    ofEntry e = ofEntry f ↔ e.source = f.source ∧ e.styles = f.styles := by
  unfold ofEntry Entry.styles
  rw [LoadedModule.mk.injEq]
  constructor
  · rintro ⟨hcode, hfiles⟩
    -- The watched file tells where the header ends, which the body alone does not.
    obtain ⟨hsource, -⟩ := List.cons.inj hfiles
    rw [hsource] at hcode
    have hlists := List.append_cancel_left (String.ofList_injective hcode)
    exact ⟨hsource, String.toList_inj.mp hlists⟩
  · rintro ⟨hsource, hstyles⟩
    rw [hsource, hstyles]
    exact ⟨rfl, rfl⟩

theorem ofEntry_ne_empty (e : Entry) : ofEntry e ≠ empty :=
  fun h => List.cons_ne_nil _ _ (congrArg watchFiles h)

end LoadedModule

namespace Registry

variable {r : Registry} {t : Token} {e : Entry}

/-! ### Loads after a write -/

theorem load_put_of_ne {id : String} (h : id ≠ Address.ofToken t) :
    (r.put t e).1.load id = r.load id := by
  refine load_congr fun u hu => get?_put_of_ne r e ?_
  rintro rfl
  exact h hu

theorem load_put_self (r : Registry) (t : Token) (e : Entry) :
    (r.put t e).1.load (Address.ofToken t) = some (.ofEntry e) := by
  rw [load_ofToken, get?_put_self, Option.elim_some]

theorem load_put_self_eq_iff : (r.put t e).1.load (Address.ofToken t) = r.load (Address.ofToken t) ↔
    ∃ f, r.get? t = some f ∧ f.source = e.source ∧ f.styles = e.styles := by
  rw [load_put_self, load_ofToken, Option.some.injEq]
  cases hf : r.get? t with
  | none => simpa using LoadedModule.ofEntry_ne_empty e
  | some f =>
      rw [Option.elim_some, eq_comm, LoadedModule.ofEntry_eq_iff]
      simp

/-! ### The main statement -/

/-- What loads see of a write of `e` for `t`. -/
structure Seen (r : Registry) (t : Token) (e : Entry) : Prop where
  /-- The address of the token yields the module of the entry. -/
  serves : (r.put t e).1.load (Address.ofToken t) = some (.ofEntry e)
  /-- No other id is loaded differently. -/
  frame : ∀ id, id ≠ Address.ofToken t → (r.put t e).1.load id = r.load id
  /-- The address is loaded differently if the write reports a modification, unless the entry before
  has the same source and both artifacts are absent or empty. -/
  differs_iff : (r.put t e).1.load (Address.ofToken t) ≠ r.load (Address.ofToken t) ↔
    ((r.put t e).2 = .inserted ∨ (r.put t e).2 = .changed) ∧
      ¬ ∃ f, r.get? t = some f ∧ f.source = e.source ∧ f.IsBlank ∧ e.IsBlank
  /-- A write that reports no change changes no load. -/
  unchanged : (r.put t e).2 = .unchanged → ∀ id, (r.put t e).1.load id = r.load id
  /-- Another entry is rendered alike only if it has the same source and the same styles. -/
  rendered : ∀ f, LoadedModule.ofEntry f = .ofEntry e ↔
    f.source = e.source ∧ (f.artifact = e.artifact ∨ f.IsBlank ∧ e.IsBlank)

/-- **What a write changes for loads.** -/
theorem put_seen (r : Registry) (t : Token) (e : Entry) : Seen r t e where
  serves := load_put_self r t e
  frame _ h := load_put_of_ne h
  differs_iff := by
    have hmodified : ((r.put t e).2 = .inserted ∨ (r.put t e).2 = .changed) ↔ r.get? t ≠ some e :=
      Change.isModified_iff.symm.trans isModified_change
    rw [Ne, load_put_self_eq_iff, hmodified]
    simp only [Entry.styles_eq_iff]
    constructor
    · intro h
      refine ⟨fun he => h ⟨e, he, rfl, .inl rfl⟩, ?_⟩
      rintro ⟨f, hf, hsource, hblank⟩
      exact h ⟨f, hf, hsource, .inr hblank⟩
    · rintro ⟨hne, hno⟩ ⟨f, hf, hsource, hartifact | hblank⟩
      · obtain ⟨source, artifact⟩ := f
        obtain ⟨source', artifact'⟩ := e
        obtain rfl : source = source' := hsource
        obtain rfl : artifact = artifact' := hartifact
        exact hne hf
      · exact hno ⟨f, hf, hsource, hblank⟩
  unchanged h id := by
    have hkept : (r.put t e).1 = r := put_of_unchanged (congrArg Change.isModified h)
    rw [hkept]
  rendered f := by
    rw [LoadedModule.ofEntry_eq_iff, Entry.styles_eq_iff]

/-- Where a source holds the end of a header, two entries can have the same body: a load still tells
one from the other, by the file to watch.  And a write from no styles to empty ones is reported as a
change that no load sees. -/
theorem put_seen_same_body :
    (LoadedModule.ofEntry ⟨"a", some "b */\nc"⟩).code =
        (LoadedModule.ofEntry ⟨"a */\nb", some "c"⟩).code ∧
      (∃ (r : Registry) (t : Token), r.get? t = some ⟨"a", some "b */\nc"⟩ ∧
        (r.put t ⟨"a */\nb", some "c"⟩).1.load (Address.ofToken t) ≠ r.load (Address.ofToken t)) ∧
      ∃ (r : Registry) (t : Token), r.get? t = some ⟨"a", none⟩ ∧
        (r.put t ⟨"a", some ""⟩).2 = .changed ∧
        ∀ id, (r.put t ⟨"a", some ""⟩).1.load id = r.load id := by
  refine ⟨by decide, ⟨⟨[(⟨0, 0, 0, 1⟩, ⟨"a", some "b */\nc"⟩)]⟩, ⟨0, 0, 0, 1⟩, rfl, ?_⟩,
    ⟨[(⟨0, 0, 0, 1⟩, ⟨"a", none⟩)]⟩, ⟨0, 0, 0, 1⟩, rfl, by decide, fun id => ?_⟩
  · refine (put_seen _ _ _).differs_iff.mpr ⟨.inr (by decide), ?_⟩
    rintro ⟨f, hf, hsource, -⟩
    obtain rfl := Option.some.inj hf
    exact absurd hsource (by decide)
  · by_cases hid : id = Address.ofToken ⟨0, 0, 0, 1⟩
    · rw [hid]
      refine Decidable.of_not_not fun hdiffers => ?_
      exact ((put_seen _ _ _).differs_iff.mp hdiffers).2 ⟨_, rfl, rfl, .inl rfl, .inr rfl⟩
    · exact (put_seen _ _ _).frame id hid

end Registry
end ScopedStyles
