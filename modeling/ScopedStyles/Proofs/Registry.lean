import ScopedStyles.Proofs.Address
import ScopedStyles.VirtualModule

/-! # What a write does to the registry

`Registry.get?` is the view: a write sets the entry of its token and no other (`get?_put`), although
it leaves the list alone when the entry is there already.  A write reports a modification exactly
when the entry was not there (`isModified_change`).  The list stays in increasing order
(`Sorted.put`), which is the order of the tokens' texts (`Token.text_lt_iff`), so registries with
the same view are equal (`Sorted.ext`).  What a load of an id yields depends only on the entry of
the token that the id is the address of (`load_congr`). -/

namespace ScopedStyles

/-! ### The order of tokens -/

namespace Hex

theorem digit_lt_iff : ∀ m < 16, ∀ n < 16, digit m < digit n ↔ m < n := by decide

theorem digit_inj : ∀ m < 16, ∀ n < 16, digit m = digit n ↔ m = n := by decide

/-- The digits of bytes are in the order of the bytes, and what follows them decides if they are
the same. -/
theorem ofByte_append_lt_iff {b c : UInt8} {r s : List Char} :
    ofByte b ++ r < ofByte c ++ s ↔ b.toNat < c.toNat ∨ b.toNat = c.toNat ∧ r < s := by
  have hb : b.toNat < 256 := b.toNat_lt
  have hc : c.toNat < 256 := c.toNat_lt
  simp only [ofByte, List.cons_append, List.nil_append, List.cons_lt_cons_iff]
  rw [digit_lt_iff _ (by omega) _ (by omega), digit_lt_iff _ (by omega) _ (by omega),
    digit_inj _ (by omega) _ (by omega), digit_inj _ (by omega) _ (by omega)]
  by_cases h : r < s <;> simp only [h, and_true, and_false, or_false] <;> omega

end Hex

theorem Token.toNat_injective {t u : Token} (h : t.toNat = u.toNat) : t = u := by
  obtain ⟨t₀, t₁, t₂, t₃⟩ := t
  obtain ⟨u₀, u₁, u₂, u₃⟩ := u
  have hb : ∀ b : UInt8, b.toNat < 256 := fun b => b.toNat_lt
  have h₁ := hb t₁
  have h₂ := hb t₂
  have h₃ := hb t₃
  have k₁ := hb u₁
  have k₂ := hb u₂
  have k₃ := hb u₃
  simp only [toNat] at h
  rw [Token.mk.injEq]
  refine ⟨UInt8.toNat_inj.mp ?_, UInt8.toNat_inj.mp ?_, UInt8.toNat_inj.mp ?_,
    UInt8.toNat_inj.mp ?_⟩ <;> omega

theorem Token.lt_iff {t u : Token} : t < u ↔ t.toNat < u.toNat := Iff.rfl

theorem Token.text_lt_iff {t u : Token} : t.text < u.text ↔ t < u := by
  have htext : t.text < u.text ↔ t.digits ++ [] < u.digits ++ [] := by
    rw [List.append_nil, List.append_nil, ← t.toList_text, ← u.toList_text]
    exact Iff.rfl
  rw [htext, lt_iff]
  simp only [digits, List.append_assoc, Hex.ofByte_append_lt_iff, toNat, List.not_lt_nil, and_false,
    or_false]
  have hlt (b : UInt8) : b.toNat < 256 := b.toNat_lt
  have ht := And.intro (hlt t.b₁) (And.intro (hlt t.b₂) (hlt t.b₃))
  have hu := And.intro (hlt u.b₁) (And.intro (hlt u.b₂) (hlt u.b₃))
  omega

/-! ### Changes -/

theorem Change.isModified_iff {c : Change} :
    c.isModified = true ↔ c = .inserted ∨ c = .changed := by
  cases c <;> simp [isModified]

namespace Registry

/-! ### The view after a write -/

theorem lookup_insertInto (t : Token) (e : Entry) (u : Token) : ∀ l : List (Token × Entry),
    (insertInto t e l).lookup u = if u = t then some e else l.lookup u
  | [] => by
      unfold insertInto
      rw [List.lookup_cons]
      by_cases h : u = t
      · simp [h]
      · simp [beq_eq_false_iff_ne.mpr h, h]
  | (v, f) :: l => by
      unfold insertInto
      by_cases h : t = v
      · rw [if_pos h, List.lookup_cons, List.lookup_cons]
        by_cases hu : u = t
        · simp [hu]
        · simp [beq_eq_false_iff_ne.mpr hu, hu, beq_eq_false_iff_ne.mpr (h ▸ hu)]
      · rw [if_neg h]
        split
        · rw [List.lookup_cons]
          by_cases hu : u = t
          · simp [hu]
          · simp [beq_eq_false_iff_ne.mpr hu, hu]
        · rw [List.lookup_cons, List.lookup_cons, lookup_insertInto t e u l]
          by_cases hv : u = v
          · have hvt : v ≠ t := fun k => h k.symm
            simp [hv, hvt]
          · simp [beq_eq_false_iff_ne.mpr hv]

theorem change_eq_unchanged_iff {r : Registry} {t : Token} {e : Entry} :
    r.change t e = .unchanged ↔ r.get? t = some e := by
  unfold change
  split
  · rename_i h
    simp [h]
  · rename_i f h
    rw [h]
    by_cases hf : f = e <;> simp [hf]

theorem change_eq_inserted_iff {r : Registry} {t : Token} {e : Entry} :
    r.change t e = .inserted ↔ r.get? t = none := by
  unfold change
  cases r.get? t with
  | none => simp
  | some f => by_cases hf : f = e <;> simp [hf]

theorem change_eq_changed_iff {r : Registry} {t : Token} {e : Entry} :
    r.change t e = .changed ↔ ∃ f, f ≠ e ∧ r.get? t = some f := by
  unfold change
  cases r.get? t with
  | none => simp
  | some f => by_cases hf : f = e <;> simp [hf]

theorem isModified_change {r : Registry} {t : Token} {e : Entry} :
    (r.change t e).isModified = true ↔ r.get? t ≠ some e := by
  have h := change_eq_unchanged_iff (r := r) (t := t) (e := e)
  rw [Ne, ← h]
  cases r.change t e <;> simp [Change.isModified]

theorem get?_put (r : Registry) (t : Token) (e : Entry) (u : Token) :
    (r.put t e).1.get? u = if u = t then some e else r.get? u := by
  unfold put
  by_cases h : (r.change t e).isModified = true
  · simp only [h, ↓reduceIte]
    exact lookup_insertInto t e u r.entries
  · simp only [h, Bool.false_eq_true, ↓reduceIte]
    by_cases hu : u = t
    · rw [if_pos hu, hu]
      exact Decidable.of_not_not fun hn => h (isModified_change.mpr hn)
    · rw [if_neg hu]

@[simp] theorem get?_put_self (r : Registry) (t : Token) (e : Entry) :
    (r.put t e).1.get? t = some e := by
  rw [get?_put, if_pos rfl]

theorem get?_put_of_ne (r : Registry) {t u : Token} (e : Entry) (h : u ≠ t) :
    (r.put t e).1.get? u = r.get? u := by
  rw [get?_put, if_neg h]

theorem put_of_unchanged {r : Registry} {t : Token} {e : Entry}
    (h : (r.change t e).isModified = false) : (r.put t e).1 = r := by
  unfold put
  simp [h]

/-! ### Keys -/

theorem mem_tokens {r : Registry} {t : Token} : t ∈ r.tokens ↔ ∃ e, r.get? t = some e := by
  unfold tokens get?
  constructor
  · intro h
    obtain ⟨p, hp, rfl⟩ := List.mem_map.mp h
    cases hl : r.entries.lookup p.1 with
    | some e => exact ⟨e, rfl⟩
    | none => simpa using List.lookup_eq_none_iff.mp hl p hp
  · rintro ⟨e, he⟩
    obtain ⟨l₁, l₂, hl, -⟩ := List.lookup_eq_some_iff.mp he
    rw [hl, List.map_append]
    exact List.mem_append_right _ List.mem_cons_self

theorem tokens_subset_put (r : Registry) (t : Token) (e : Entry) :
    r.tokens ⊆ (r.put t e).1.tokens := by
  intro u hu
  obtain ⟨f, hf⟩ := mem_tokens.mp hu
  refine mem_tokens.mpr ?_
  rw [get?_put]
  by_cases hut : u = t
  · exact ⟨e, if_pos hut⟩
  · exact ⟨f, by rw [if_neg hut, hf]⟩

/-! ### Order -/

/-- The tokens of the entries increase. -/
def Sorted (r : Registry) : Prop := r.entries.Pairwise fun p q => p.1 < q.1

theorem sorted_empty : Sorted empty := .nil

theorem mem_insertInto {t : Token} {e : Entry} {p : Token × Entry} :
    ∀ {l : List (Token × Entry)}, p ∈ insertInto t e l → p = (t, e) ∨ p ∈ l
  | [], h => by simpa [insertInto] using h
  | (v, f) :: l, h => by
      unfold insertInto at h
      split at h
      · rcases List.mem_cons.mp h with h | h
        · exact .inl h
        · exact .inr (List.mem_cons_of_mem _ h)
      · split at h
        · exact List.mem_cons.mp h
        · rcases List.mem_cons.mp h with h | h
          · exact .inr (h ▸ List.mem_cons_self)
          · rcases mem_insertInto h with h | h
            · exact .inl h
            · exact .inr (List.mem_cons_of_mem _ h)

theorem pairwise_insertInto (t : Token) (e : Entry) :
    ∀ {l : List (Token × Entry)}, (l.Pairwise fun p q => p.1 < q.1) →
      (insertInto t e l).Pairwise fun p q => p.1 < q.1
  | [], _ => by simp [insertInto]
  | (v, f) :: l, h => by
      obtain ⟨hv, hl⟩ := List.pairwise_cons.mp h
      unfold insertInto
      split
      · rename_i htv
        exact List.pairwise_cons.mpr ⟨fun p hp => htv ▸ hv p hp, hl⟩
      · rename_i htv
        split
        · rename_i hlt
          refine List.pairwise_cons.mpr ⟨fun p hp => ?_, h⟩
          rcases List.mem_cons.mp hp with rfl | hp
          · exact hlt
          · exact Nat.lt_trans hlt (hv p hp)
        · rename_i hnlt
          have hvt : v < t := by
            have hne : t.toNat ≠ v.toNat := fun k => htv (Token.toNat_injective k)
            rw [Token.lt_iff] at hnlt ⊢
            omega
          refine List.pairwise_cons.mpr ⟨fun p hp => ?_, pairwise_insertInto t e hl⟩
          rcases mem_insertInto hp with rfl | hp
          · exact hvt
          · exact hv p hp

theorem Sorted.put {r : Registry} (h : r.Sorted) (t : Token) (e : Entry) :
    (r.put t e).1.Sorted := by
  unfold Registry.put
  by_cases hm : (r.change t e).isModified = true
  · simp only [hm, ↓reduceIte]
    exact pairwise_insertInto t e h
  · simpa [hm] using h

theorem lookup_eq_none_of_lt {t : Token} {l : List (Token × Entry)} (h : ∀ p ∈ l, t < p.1) :
    l.lookup t = none := by
  rw [List.lookup_eq_none_iff]
  intro p hp
  have hlt : t.toNat < p.1.toNat := h p hp
  rw [bne_iff_ne]
  rintro rfl
  omega

theorem ext_lookup : ∀ {l m : List (Token × Entry)}, (l.Pairwise fun p q => p.1 < q.1) →
    (m.Pairwise fun p q => p.1 < q.1) → (∀ t, l.lookup t = m.lookup t) → l = m
  | [], [], _, _, _ => rfl
  | [], (v, f) :: m, _, _, h => by
      have := h v
      simp at this
  | (v, f) :: l, [], _, _, h => by
      have := h v
      simp at this
  | (v, f) :: l, (w, g) :: m, hl, hm, h => by
      obtain ⟨hv, hl'⟩ := List.pairwise_cons.mp hl
      obtain ⟨hw, hm'⟩ := List.pairwise_cons.mp hm
      -- The heads carry the least token of their list, so neither can be less than the other.
      have hvw : v = w := by
        rcases Nat.lt_trichotomy v.toNat w.toNat with k | k | k
        · have hn : ((w, g) :: m).lookup v = none := lookup_eq_none_of_lt fun p hp => by
            rcases List.mem_cons.mp hp with rfl | hp
            · exact k
            · exact Nat.lt_trans k (hw p hp)
          rw [← h v] at hn
          simp at hn
        · exact Token.toNat_injective k
        · have hn : ((v, f) :: l).lookup w = none := lookup_eq_none_of_lt fun p hp => by
            rcases List.mem_cons.mp hp with rfl | hp
            · exact k
            · exact Nat.lt_trans k (hv p hp)
          rw [h w] at hn
          simp at hn
      subst hvw
      have hfg : f = g := by simpa using h v
      have hlm : l = m := by
        refine ext_lookup hl' hm' fun t => ?_
        by_cases ht : t = v
        · rw [ht, lookup_eq_none_of_lt hv, lookup_eq_none_of_lt hw]
        · have := h t
          simpa [List.lookup_cons, beq_eq_false_iff_ne.mpr ht] using this
      rw [hfg, hlm]

/-- Registries in order are equal if they have the same entries. -/
theorem Sorted.ext {r r' : Registry} (h : r.Sorted) (h' : r'.Sorted)
    (he : ∀ t, r.get? t = r'.get? t) : r = r' := by
  obtain ⟨l⟩ := r
  obtain ⟨l'⟩ := r'
  rw [Registry.mk.injEq]
  exact ext_lookup h h' he

/-! ### Loads -/

theorem entryAt?_congr {r r' : Registry} {id : String}
    (h : ∀ t, id = Address.ofToken t → r.get? t = r'.get? t) : r.entryAt? id = r'.entryAt? id := by
  unfold entryAt?
  cases hid : Address.token? id with
  | none => rfl
  | some t => exact h t (Address.token?_eq_some_iff.mp hid)

/-- A load sees only the entry of the token whose address it asks for. -/
theorem load_congr {r r' : Registry} {id : String}
    (h : ∀ t, id = Address.ofToken t → r.get? t = r'.get? t) : r.load id = r'.load id := by
  unfold load
  rw [entryAt?_congr h]

theorem isEarly_congr {r r' : Registry} {id : String}
    (h : ∀ t, id = Address.ofToken t → r.get? t = r'.get? t) : r.isEarly id = r'.isEarly id := by
  unfold isEarly
  rw [entryAt?_congr h]

theorem change_congr {r r' : Registry} {t : Token} (h : r.get? t = r'.get? t) (e : Entry) :
    r.change t e = r'.change t e := by
  unfold change
  rw [h]

theorem load_ofToken (r : Registry) (t : Token) :
    r.load (Address.ofToken t) =
      some ((r.get? t).elim LoadedModule.empty LoadedModule.ofEntry) := by
  unfold load entryAt?
  rw [Address.isVirtual_ofToken, if_pos rfl, Address.token?_ofToken, Option.bind_some]
  cases r.get? t <;> rfl

end Registry
end ScopedStyles
