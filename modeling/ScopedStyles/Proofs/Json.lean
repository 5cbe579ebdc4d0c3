import Mathlib.Data.List.Forall2
import ScopedStyles.Json.Decode

/-! # Reading records

When the readers of records succeed, and what they fail for.  A list is read if its items are, one
by one (`items_eq_ok_iff`); the members of an object pass a check if each name passes it with the
member that counts for it (`checkMembers_eq_ok_iff`), and members that no check refuses need not be
there (`checkMembers_filter`).  Where no name stands twice the order of the members does not matter
(`member?_perm`), nor do members that belong to nobody (`member?_widened`). -/

namespace ScopedStyles.Json

variable {α β : Type}

/-! ### Steps -/

theorem bind_eq_ok_iff {x : Decoded α} {f : α → Decoded β} {b : β} :
    x >>= f = .ok b ↔ ∃ a, x = .ok a ∧ f a = .ok b := by
  cases x with
  | error e =>
      constructor
      · intro h
        cases h
      · rintro ⟨a, h, -⟩
        cases h
  | ok a =>
      constructor
      · exact fun h => ⟨a, rfl, h⟩
      · rintro ⟨a', h, hb⟩
        cases h
        exact hb

theorem map_eq_ok_iff {x : Decoded α} {f : α → β} {b : β} :
    f <$> x = .ok b ↔ ∃ a, x = .ok a ∧ f a = b := by
  rw [map_eq_pure_bind, bind_eq_ok_iff]
  simp only [pure, Except.pure, Except.ok.injEq]

theorem bind_eq_error_iff {x : Decoded α} {f : α → Decoded β} {fault : Fault} :
    x >>= f = .error fault ↔ x = .error fault ∨ ∃ a, x = .ok a ∧ f a = .error fault := by
  cases x with
  | error e =>
      show (Except.error e : Decoded β) = _ ↔ _
      simp
  | ok a =>
      show f a = _ ↔ _
      simp

theorem map_eq_error_iff {x : Decoded α} {f : α → β} {fault : Fault} :
    f <$> x = .error fault ↔ x = .error fault := by
  rw [map_eq_pure_bind, bind_eq_error_iff]
  simp [pure, Except.pure]

theorem discard_eq_ok_iff {x : Decoded α} : discard x = .ok () ↔ ∃ a, x = .ok a := by
  refine map_eq_ok_iff.trans ?_
  simp

/-! ### Lists -/

theorem items_eq_ok_iff {read : Json → Decoded α} : ∀ {vs : List Json} {xs : List α},
    items read vs = .ok xs ↔ List.Forall₂ (fun v x => read v = .ok x) vs xs
  | [], xs => by
      rw [List.forall₂_nil_left_iff, items, Except.ok.injEq, eq_comm]
  | v :: vs, xs => by
      rw [List.forall₂_cons_left_iff]
      constructor
      · intro h
        obtain ⟨x, hx, h⟩ := bind_eq_ok_iff.mp h
        obtain ⟨ys, hys, h⟩ := bind_eq_ok_iff.mp h
        exact ⟨x, ys, hx, items_eq_ok_iff.mp hys, (Except.ok.inj h).symm⟩
      · rintro ⟨x, ys, hx, hys, rfl⟩
        exact bind_eq_ok_iff.mpr ⟨x, hx, bind_eq_ok_iff.mpr ⟨ys, items_eq_ok_iff.mpr hys, rfl⟩⟩

theorem exists_forall₂_iff {R : α → β → Prop} : ∀ {xs : List α},
    (∃ ys, List.Forall₂ R xs ys) ↔ ∀ x ∈ xs, ∃ y, R x y
  | [] => by simp
  | x :: xs => by
      rw [List.forall_mem_cons, ← exists_forall₂_iff]
      constructor
      · rintro ⟨_, _ | ⟨hx, hxs⟩⟩
        exact ⟨⟨_, hx⟩, _, hxs⟩
      · rintro ⟨⟨y, hx⟩, ys, hxs⟩
        exact ⟨y :: ys, .cons hx hxs⟩

theorem exists_of_items_eq_error {read : Json → Decoded α} {fault : Fault} :
    ∀ {vs : List Json}, items read vs = .error fault → ∃ v ∈ vs, read v = .error fault
  | [], h => nomatch h
  | v :: vs, h => by
      rcases bind_eq_error_iff.mp h with h | ⟨x, -, h⟩
      · exact ⟨v, List.mem_cons_self, h⟩
      · rcases bind_eq_error_iff.mp h with h | ⟨xs, -, h⟩
        · obtain ⟨w, hw, h⟩ := exists_of_items_eq_error h
          exact ⟨w, List.mem_cons_of_mem _ hw, h⟩
        · cases h

theorem items_map {read : Json → Decoded α} {f : Json → Json} (h : ∀ v, read (f v) = read v) :
    ∀ vs : List Json, items read (vs.map f) = items read vs
  | [] => rfl
  | v :: vs => by
      rw [List.map_cons, items, items, h, items_map h vs]

theorem noFurther_eq_ok_iff {route : Route} {vs : List Json} {n : Nat} :
    noFurther route vs n = .ok () ↔ vs.length ≤ n := by
  unfold noFurther
  by_cases h : vs.length ≤ n
  · rw [if_pos h]
    exact ⟨fun _ => h, fun _ => rfl⟩
  · rw [if_neg h]
    exact ⟨(nomatch ·), fun hle => absurd hle h⟩

/-! ### Objects -/

/-- The first member passes its check, if it counts for something, and the others pass theirs. -/
theorem checkMembers_cons (check : String → Json → Decoded Unit) (all : List (String × Json))
    (p : String × Json) (ms : List (String × Json)) : checkMembers check all (p :: ms) =
      (member? all p.1).elim (.ok ()) (check p.1) >>= fun _ => checkMembers check all ms := by
  rw [checkMembers]
  cases member? all p.1 <;> rfl

theorem checkMembers_eq_ok_iff {check : String → Json → Decoded Unit}
    {all : List (String × Json)} : ∀ {ms : List (String × Json)},
    checkMembers check all ms = .ok () ↔
      ∀ p ∈ ms, ∀ v, member? all p.1 = some v → check p.1 v = .ok ()
  | [] => by
      simp [checkMembers]
  | p :: ms => by
      have hstep (x : Decoded Unit) : (x >>= fun _ => checkMembers check all ms) = .ok () ↔
          x = .ok () ∧ checkMembers check all ms = .ok () :=
        bind_eq_ok_iff.trans ⟨fun ⟨(), h⟩ => h, fun h => ⟨(), h⟩⟩
      rw [List.forall_mem_cons, ← checkMembers_eq_ok_iff, checkMembers_cons, hstep]
      cases member? all p.1 <;> simp

theorem exists_of_checkMembers_eq_error {check : String → Json → Decoded Unit}
    {all : List (String × Json)} {fault : Fault} :
    ∀ {ms : List (String × Json)}, checkMembers check all ms = .error fault →
      ∃ name v, member? all name = some v ∧ check name v = .error fault
  | [], h => nomatch h
  | p :: ms, h => by
      rw [checkMembers_cons] at h
      rcases bind_eq_error_iff.mp h with h | ⟨-, -, h⟩
      · cases hm : member? all p.1 with
        | none =>
            rw [hm] at h
            cases h
        | some v =>
            rw [hm] at h
            exact ⟨p.1, v, hm, h⟩
      · exact exists_of_checkMembers_eq_error h

theorem member?_cons (p : String × Json) (ms : List (String × Json)) (name : String) :
    member? (p :: ms) name = if name = p.1 then some p.2 else member? ms name := by
  unfold member?
  rw [List.lookup_cons]
  by_cases h : name = p.1
  · simp [h]
  · simp [beq_eq_false_iff_ne.mpr h, h]

theorem fieldOr_eq_elim (ms : List (String × Json)) (name : String) (absent : α)
    (read : Json → Decoded α) :
    fieldOr ms name absent read = (member? ms name).elim (.ok absent) read := by
  unfold fieldOr
  cases member? ms name <;> rfl

theorem member?_map (f : Json → Json) (name : String) : ∀ ms : List (String × Json),
    member? (ms.map fun p => (p.1, f p.2)) name = (member? ms name).map f
  | [] => rfl
  | p :: ms => by
      rw [List.map_cons, member?_cons, member?_cons, member?_map f name ms]
      split <;> rfl

theorem member?_perm {ms ns : List (String × Json)} (h : ms.Perm ns)
    (hn : (ms.map (·.1)).Nodup) (name : String) : member? ms name = member? ns name := by
  induction h with
  | nil => rfl
  | cons p _ ih =>
      rw [member?_cons, member?_cons, ih (List.nodup_cons.mp hn).2]
  | swap p q ms =>
      -- The name looked for is the name of one of the two at most.
      have hne : q.1 ≠ p.1 := by
        intro he
        simp [he] at hn
      simp only [member?_cons]
      by_cases hq : name = q.1
      · rw [if_pos hq, if_neg (hq ▸ hne), if_pos hq]
      · rw [if_neg hq, if_neg hq]
  | trans h₁ _ ih₁ ih₂ =>
      exact (ih₁ hn).trans (ih₂ ((h₁.map _).nodup_iff.mp hn))

/-! ### Foreign members -/

/-- `Widened own ms ns`: the members `ns` are the members `ms` and others, whose names are not among
`own`, in any order. -/
def Widened (own : List String) (ms ns : List (String × Json)) : Prop :=
  ∃ others, (∀ p ∈ others, p.1 ∉ own) ∧ ns.Perm (ms ++ others)

/-- `Wider own v w`: the object `w` is the object `v` among foreign members. -/
inductive Wider (own : List String) : Json → Json → Prop
  | object {ms ns : List (String × Json)} : Widened own ms ns → Wider own (.object ms) (.object ns)

theorem Widened.refl (own : List String) (ms : List (String × Json)) : Widened own ms ms :=
  ⟨[], List.forall_mem_nil _, by rw [List.append_nil]⟩

theorem member?_filter {keep : String × Json → Bool} {name : String}
    (hk : ∀ p : String × Json, p.1 = name → keep p = true) :
    ∀ ms : List (String × Json), member? (ms.filter keep) name = member? ms name
  | [] => rfl
  | p :: ms => by
      by_cases hp : keep p = true
      · rw [List.filter_cons_of_pos hp, member?_cons, member?_cons, member?_filter hk ms]
      · have hne : name ≠ p.1 := fun he => hp (hk p he.symm)
        rw [List.filter_cons_of_neg hp, member?_cons, if_neg hne, member?_filter hk ms]

/-- Foreign members hide none of an object's own. -/
theorem member?_widened {own : List String} {ms ns : List (String × Json)} (h : Widened own ms ns)
    (hn : (ms.map (·.1)).Nodup) {name : String} (hname : name ∈ own) :
    member? ns name = member? ms name := by
  obtain ⟨others, hothers, hperm⟩ := h
  let keep : String × Json → Bool := fun p => decide (p.1 ∈ own)
  have hk : ∀ p : String × Json, p.1 = name → keep p = true := fun p hp => by
    simp [keep, hp, hname]
  have hnone : others.filter keep = [] :=
    List.filter_eq_nil_iff.mpr fun p hp => by simp [keep, hothers p hp]
  have hkept : (ns.filter keep).Perm (ms.filter keep) := by
    simpa only [List.filter_append, hnone, List.append_nil] using hperm.filter keep
  have hnodup : ((ms.filter keep).map (·.1)).Nodup := (List.filter_sublist.map _).nodup hn
  rw [← member?_filter hk ns, ← member?_filter hk ms]
  exact member?_perm hkept ((hkept.map _).nodup_iff.mpr hnodup) name

theorem checkMembers_filter {check : String → Json → Decoded Unit} {keep : String × Json → Bool}
    (h : ∀ p, keep p = false → ∀ v, check p.1 v = .ok ()) (all : List (String × Json)) :
    ∀ ms, checkMembers check all (ms.filter keep) = checkMembers check all ms
  | [] => rfl
  | p :: ms => by
      rw [checkMembers_cons, ← checkMembers_filter h all ms]
      cases hp : keep p with
      | true => rw [List.filter_cons_of_pos hp, checkMembers_cons]
      | false =>
          have hpass : (member? all p.1).elim (.ok ()) (check p.1) = .ok () := by
            cases member? all p.1 with
            | none => rfl
            | some v => exact h p hp v
          rw [List.filter_cons_of_neg (by simp [hp]), hpass]
          rfl

/-- A check of the members depends on what counts for their names only. -/
theorem checkMembers_map {check : String → Json → Decoded Unit} {all all' : List (String × Json)}
    {f : Json → Json} : ∀ {ms : List (String × Json)},
    (∀ p ∈ ms, (member? all' p.1).elim (.ok ()) (check p.1) =
      (member? all p.1).elim (.ok ()) (check p.1)) →
    checkMembers check all' (ms.map fun p => (p.1, f p.2)) = checkMembers check all ms
  | [], _ => rfl
  | p :: ms, h => by
      obtain ⟨hp, hms⟩ := List.forall_mem_cons.mp h
      rw [List.map_cons, checkMembers_cons, checkMembers_cons, hp, checkMembers_map hms]

/-- The members of an object pass a check that looks at an object's own members only. -/
theorem checkMembers_of_own {check : String → Json → Decoded Unit} {own : List String}
    {ms : List (String × Json)} (hother : ∀ name ∉ own, ∀ v, check name v = .ok ())
    (hown : ∀ name ∈ own, ∃ v, member? ms name = some v ∧ check name v = .ok ()) :
    checkMembers check ms ms = .ok () := by
  rw [checkMembers_eq_ok_iff]
  intro p _ v hv
  by_cases hp : p.1 ∈ own
  · obtain ⟨w, hw, hcheck⟩ := hown p.1 hp
    rwa [Option.some.inj (hv.symm.trans hw)]
  · exact hother p.1 hp v

theorem field_eq_of_member {ms : List (String × Json)} {name : String} {v : Json}
    (h : member? ms name = some v) (read : Json → Decoded α) : field ms name read = read v := by
  unfold field
  rw [h]

/-! ### Writing and reading -/

/-- What `write` writes, `read` reads back, and foreign members make no difference: `wider v w`
says that `w` is `v` with foreign members. -/
structure ReadsBack (write : α → Json) (read : Json → Decoded α) (wider : Json → Json → Prop) :
    Prop where
  read_write : ∀ x y, read (write x) = .ok y ↔ y = x
  write_inj : ∀ x y, write x = write y ↔ x = y
  wider_self : ∀ x, wider (write x) (write x)
  read_wider : ∀ x v, wider (write x) v → read v = .ok x

/-- It is enough that a value is read among foreign members. -/
theorem ReadsBack.of_wider {write : α → Json} {read : Json → Decoded α}
    {wider : Json → Json → Prop} (hself : ∀ x, wider (write x) (write x))
    (hread : ∀ x v, wider (write x) v → read v = .ok x) : ReadsBack write read wider where
  read_write x y := by
    rw [hread x _ (hself x), Except.ok.injEq, eq_comm]
  write_inj x y := by
    refine ⟨fun he => ?_, fun he => he ▸ rfl⟩
    have hx := hread x _ (hself x)
    rw [he, hread y _ (hself y)] at hx
    exact (Except.ok.inj hx).symm
  wider_self := hself
  read_wider := hread

/-- It is enough that an object is read by its own members. -/
theorem ReadsBack.of_own {own : List String} {members : α → List (String × Json)}
    {read : Json → Decoded α} (hnodup : ∀ x, ((members x).map (·.1)).Nodup)
    (hread : ∀ {x ms}, (∀ name ∈ own, member? ms name = member? (members x) name) →
      read (.object ms) = .ok x) :
    ReadsBack (fun x => .object (members x)) read (Wider own) := by
  refine .of_wider (fun x => .object (.refl own (members x))) ?_
  rintro x v ⟨h⟩
  exact hread fun name hname => member?_widened h (hnodup x) hname

end ScopedStyles.Json
