import Mathlib.Data.List.Dedup
import Mathlib.Data.List.Induction
import ScopedStyles.Proofs.Registry

/-! # A registry as a record of writes

After a sequence of writes each token has the entry of the last write under it, although a write of
what is already there is left out (`Registry.get?_writeAll`), and what a write reports can be told
from the writes before it alone (`Registry.getElem?_writeReports`).  Its tokens are its keys sorted
by their texts, however these are collected (`Registry.Sorted.mergeSort_keys`).  So a registry that
starts empty is the plain record of its writes to all its readers (`Registry.writeAll_records`). -/

namespace ScopedStyles

/-! ### The record of writes -/

/-- The entries that are written under a token, in their order. -/
def entriesUnder (t : Token) (ws : List (Token × Entry)) : List Entry :=
  (ws.filter fun w => w.1 = t).map (·.2)

/-- The last write under a token is that of an entry. -/
def LastWrite (ws : List (Token × Entry)) (t : Token) (e : Entry) : Prop :=
  ∃ before after, ws = before ++ (t, e) :: after ∧ ∀ f, (t, f) ∉ after

section

variable {t : Token} {e : Entry} {ws : List (Token × Entry)}

theorem entriesUnder_append (t : Token) (ws vs : List (Token × Entry)) :
    entriesUnder t (ws ++ vs) = entriesUnder t ws ++ entriesUnder t vs := by
  simp [entriesUnder]

theorem entriesUnder_cons (t : Token) (w : Token × Entry) (ws : List (Token × Entry)) :
    entriesUnder t (w :: ws) = (if w.1 = t then [w.2] else []) ++ entriesUnder t ws := by
  unfold entriesUnder
  by_cases h : w.1 = t <;> simp [h]

theorem mem_entriesUnder : e ∈ entriesUnder t ws ↔ (t, e) ∈ ws := by
  simp [entriesUnder]

theorem entriesUnder_eq_nil_iff : entriesUnder t ws = [] ↔ ∀ e, (t, e) ∉ ws := by
  simp only [List.eq_nil_iff_forall_not_mem, mem_entriesUnder]

theorem lastWrite_iff : LastWrite ws t e ↔ (entriesUnder t ws).getLast? = some e := by
  constructor
  · rintro ⟨before, after, rfl, hno⟩
    rw [entriesUnder_append, entriesUnder_cons, if_pos rfl, entriesUnder_eq_nil_iff.mpr hno]
    simp
  · intro h
    -- The last write of all is the one, or it is under another token and does not count.
    induction ws using List.reverseRecOn with
    | nil => cases h
    | append_singleton ws w ih =>
        rw [entriesUnder_append, entriesUnder_cons] at h
        by_cases hw : w.1 = t
        · obtain ⟨u, f⟩ := w
          obtain rfl : u = t := hw
          obtain rfl : f = e := by simpa [entriesUnder] using h
          exact ⟨ws, [], rfl, fun _ => List.not_mem_nil⟩
        · obtain ⟨before, after, rfl, hno⟩ := ih (by simpa [hw, entriesUnder] using h)
          refine ⟨before, after ++ [w], by simp, fun f hf => ?_⟩
          rcases List.mem_append.mp hf with hf | hf
          · exact hno f hf
          · exact hw (congrArg Prod.fst (List.mem_singleton.mp hf)).symm

theorem LastWrite.mem (h : LastWrite ws t e) : (t, e) ∈ ws := by
  obtain ⟨before, after, rfl, -⟩ := h
  exact List.mem_append_right _ List.mem_cons_self

theorem exists_lastWrite_iff : (∃ e, LastWrite ws t e) ↔ ∃ e, (t, e) ∈ ws := by
  constructor
  · rintro ⟨e, h⟩
    exact ⟨e, h.mem⟩
  · rintro ⟨e, h⟩
    have hne := List.ne_nil_of_mem (mem_entriesUnder.mpr h)
    exact ⟨_, lastWrite_iff.mpr (List.getLast?_eq_some_getLast hne)⟩

end

namespace Registry

/-! ### Writes one after another -/

/-- The registry after writes, one after another. -/
def writeAll (r : Registry) (ws : List (Token × Entry)) : Registry :=
  ws.foldl (fun r w => (r.put w.1 w.2).1) r

/-- What writes report, one after another. -/
def writeReports : Registry → List (Token × Entry) → List Change
  | _, [] => []
  | r, w :: ws => (r.put w.1 w.2).2 :: (r.put w.1 w.2).1.writeReports ws

theorem writeAll_cons (r : Registry) (w : Token × Entry) (ws : List (Token × Entry)) :
    r.writeAll (w :: ws) = (r.put w.1 w.2).1.writeAll ws := rfl

theorem writeAll_append (r : Registry) (ws vs : List (Token × Entry)) :
    r.writeAll (ws ++ vs) = (r.writeAll ws).writeAll vs := List.foldl_append

theorem writeReports_append : ∀ (r : Registry) (ws vs : List (Token × Entry)),
    r.writeReports (ws ++ vs) = r.writeReports ws ++ (r.writeAll ws).writeReports vs
  | _, [], _ => rfl
  | r, w :: ws, vs => by
      rw [List.cons_append, writeReports, writeReports_append, writeAll_cons, writeReports,
        List.cons_append]

theorem length_writeReports : ∀ (r : Registry) (ws : List (Token × Entry)),
    (r.writeReports ws).length = ws.length
  | _, [] => rfl
  | r, w :: ws => by
      rw [writeReports, List.length_cons, length_writeReports, List.length_cons]

theorem get?_writeAll (t : Token) : ∀ (r : Registry) (ws : List (Token × Entry)),
    (r.writeAll ws).get? t = (entriesUnder t ws).getLast?.or (r.get? t)
  | _, [] => rfl
  | r, w :: ws => by
      rw [writeAll_cons, get?_writeAll t _ ws, get?_put, entriesUnder_cons]
      by_cases h : w.1 = t
      · rw [if_pos h.symm, if_pos h, List.singleton_append, List.getLast?_cons]
        cases (entriesUnder t ws).getLast? <;> rfl
      · rw [if_neg (Ne.symm h), if_neg h, List.nil_append]

theorem Sorted.writeAll : ∀ {r : Registry} (ws : List (Token × Entry)), r.Sorted →
    (r.writeAll ws).Sorted
  | _, [], h => h
  | _, w :: ws, h => Sorted.writeAll ws (h.put w.1 w.2)

/-- A write reports what it does to the entry that the writes before it have left. -/
theorem getElem?_writeReports (r : Registry) (before : List (Token × Entry)) (t : Token)
    (e : Entry) (after : List (Token × Entry)) :
    (r.writeReports (before ++ (t, e) :: after))[before.length]? =
      some ((r.writeAll before).change t e) := by
  rw [writeReports_append, ← length_writeReports r before, List.getElem?_append_right
    (Nat.le_refl _), Nat.sub_self]
  rfl

section

variable {r : Registry} {t u : Token} {e : Entry}

theorem get?_ne_put_iff : r.get? u ≠ (r.put t e).1.get? u ↔
    t = u ∧ (r.put t e).2.isModified = true := by
  rw [get?_put]
  by_cases h : u = t
  · subst h
    rw [if_pos rfl, eq_self_iff_true, true_and]
    exact isModified_change.symm
  · simp [h, Ne.symm h]

end

/-- The modifications under a token are as many as the times its entry changes. -/
theorem countP_modified (t : Token) : ∀ (r : Registry) (ws : List (Token × Entry)),
    ((ws.zip (r.writeReports ws)).countP fun p => p.1.1 = t ∧ p.2.isModified = true) =
      (List.range ws.length).countP fun n =>
        (r.writeAll (ws.take n)).get? t ≠ (r.writeAll (ws.take (n + 1))).get? t
  | _, [] => rfl
  | r, w :: ws => by
      rw [writeReports, List.zip_cons_cons, List.countP_cons, countP_modified t _ ws,
        List.length_cons, List.range_succ_eq_map, List.countP_cons, List.countP_map]
      congr 1
      -- The first write is made to `r` itself.
      have hfirst := get?_ne_put_iff (r := r) (t := w.1) (u := t) (e := w.2)
      simp only [List.take_zero, List.take_succ_cons, ← hfirst]
      rfl

/-! ### Tokens -/

theorem Sorted.tokens_increasing {r : Registry} (h : r.Sorted) :
    r.tokens.Pairwise fun t u => t.text < u.text := by
  unfold tokens
  rw [List.pairwise_map]
  exact h.imp Token.text_lt_iff.mpr

theorem Sorted.nodup_tokens {r : Registry} (h : r.Sorted) : r.tokens.Nodup := by
  unfold tokens List.Nodup
  rw [List.pairwise_map]
  refine h.imp fun {p q} hpq heq => ?_
  rw [heq, Token.lt_iff] at hpq
  exact Nat.lt_irrefl _ hpq

/-- The tokens are the keys of the entries sorted by their texts, in whichever order the keys were
collected. -/
theorem Sorted.mergeSort_keys {r : Registry} (h : r.Sorted) {keys : List Token}
    (hnodup : keys.Nodup) (hkeys : ∀ t, t ∈ keys ↔ ∃ e, r.get? t = some e) :
    keys.mergeSort (fun t u => t.text ≤ u.text) = r.tokens := by
  have hperm : keys.Perm r.tokens := by
    refine (List.perm_ext_iff_of_nodup hnodup h.nodup_tokens).mpr fun t => ?_
    rw [hkeys, mem_tokens]
  have hsorted : (keys.mergeSort fun t u => t.text ≤ u.text).Pairwise
      fun t u => t.text ≤ u.text := by
    refine (List.pairwise_mergeSort ?_ ?_ keys).imp of_decide_eq_true
    · intro t u v htu huv
      exact decide_eq_true (String.le_trans (of_decide_eq_true htu) (of_decide_eq_true huv))
    · intro t u
      simpa using String.le_total t.text u.text
  have hantisymm (t u : Token) (htu : t.text ≤ u.text) (hut : u.text ≤ t.text) : t = u := by
    have hle : ¬ u < t := fun hlt => String.not_lt.mpr htu (Token.text_lt_iff.mpr hlt)
    have hge : ¬ t < u := fun hlt => String.not_lt.mpr hut (Token.text_lt_iff.mpr hlt)
    rw [Token.lt_iff] at hle hge
    exact Token.toNat_injective (by omega)
  have htokens : r.tokens.Pairwise fun t u => t.text ≤ u.text :=
    h.tokens_increasing.imp fun hlt => String.not_lt.mp (String.lt_asymm hlt)
  exact ((keys.mergeSort_perm _).trans hperm).eq_of_pairwise (fun t u _ _ => hantisymm t u)
    hsorted htokens

/-! ### The main statement -/

/-- A registry with the reports that it gave is the record of the writes `ws`. -/
structure Records (ws : List (Token × Entry)) (r : Registry) (reports : List Change) : Prop where
  /-- A token has no entry if it was never written. -/
  absent : ∀ t, r.get? t = none ↔ ∀ e, (t, e) ∉ ws
  /-- Otherwise it has the entry of the last write under it. -/
  present : ∀ t e, r.get? t = some e ↔ LastWrite ws t e
  /-- There is one report for each write. -/
  length_eq : reports.length = ws.length
  /-- A write is reported as the first one under its token, as one of what the last write under it
  has left, or else as a change. -/
  reported : ∀ before t e after, ws = before ++ (t, e) :: after →
    ∃ change, reports[before.length]? = some change ∧
      (change = .inserted ↔ ∀ f, (t, f) ∉ before) ∧
      (change = .unchanged ↔ LastWrite before t e) ∧
      (change = .changed ↔ ∃ f, f ≠ e ∧ LastWrite before t f)
  /-- A token has as many reports of a modification as there are writes that change its entry. -/
  modified : ∀ t,
    ((ws.zip reports).countP fun p => p.1.1 = t ∧ p.2.isModified = true) =
      (List.range ws.length).countP fun n =>
        (empty.writeAll (ws.take n)).get? t ≠ (empty.writeAll (ws.take (n + 1))).get? t
  /-- The size is the number of different tokens. -/
  size_eq : r.size = (ws.map (·.1)).dedup.length
  isEmpty_iff : r.isEmpty = true ↔ r.size = 0
  /-- The tokens are listed in the order of their texts, each of them once. -/
  increasing : r.tokens.Pairwise fun t u => t.text < u.text
  nodup : r.tokens.Nodup
  mem_tokens : ∀ t, t ∈ r.tokens ↔ ∃ e, (t, e) ∈ ws

section

variable {ws : List (Token × Entry)} {t : Token} {e : Entry}

theorem get?_writeAll_empty (t : Token) (ws : List (Token × Entry)) :
    (empty.writeAll ws).get? t = (entriesUnder t ws).getLast? := by
  rw [get?_writeAll]
  exact Option.or_none

theorem get?_writeAll_eq_some_iff :
    (empty.writeAll ws).get? t = some e ↔ LastWrite ws t e := by
  rw [get?_writeAll_empty, lastWrite_iff]

theorem get?_writeAll_eq_none_iff :
    (empty.writeAll ws).get? t = none ↔ ∀ e, (t, e) ∉ ws := by
  rw [get?_writeAll_empty, List.getLast?_eq_none_iff, entriesUnder_eq_nil_iff]

theorem mem_tokens_writeAll_iff : t ∈ (empty.writeAll ws).tokens ↔ ∃ e, (t, e) ∈ ws := by
  rw [mem_tokens, ← exists_lastWrite_iff]
  simp only [get?_writeAll_eq_some_iff]

end

/-- **A registry is the record of its writes.** -/
theorem writeAll_records (ws : List (Token × Entry)) :
    Records ws (empty.writeAll ws) (empty.writeReports ws) where
  absent _ := get?_writeAll_eq_none_iff
  present _ _ := get?_writeAll_eq_some_iff
  length_eq := length_writeReports empty ws
  reported before t e after h := by
    refine ⟨_, h ▸ getElem?_writeReports empty before t e after, ?_, ?_, ?_⟩
    · rw [change_eq_inserted_iff, get?_writeAll_eq_none_iff]
    · rw [change_eq_unchanged_iff, get?_writeAll_eq_some_iff]
    · simp only [change_eq_changed_iff, get?_writeAll_eq_some_iff]
  modified t := countP_modified t empty ws
  size_eq := by
    have hperm : (empty.writeAll ws).tokens.Perm (ws.map (·.1)).dedup := by
      refine (List.perm_ext_iff_of_nodup (sorted_empty.writeAll ws).nodup_tokens
        (List.nodup_dedup _)).mpr fun t => ?_
      simp [mem_tokens_writeAll_iff]
    rw [← hperm.length_eq]
    exact (List.length_map _).symm
  isEmpty_iff := List.isEmpty_iff_length_eq_zero
  increasing := (sorted_empty.writeAll ws).tokens_increasing
  nodup := (sorted_empty.writeAll ws).nodup_tokens
  mem_tokens _ := mem_tokens_writeAll_iff

/-- A token goes from no styles to empty ones, which it gets twice, and back, and another token that
comes before it is written in between. -/
theorem writeAll_records_there_and_back : ∃ (ws : List (Token × Entry)) (t : Token),
    ws.length = 5 ∧
    empty.writeReports ws = [.inserted, .inserted, .changed, .unchanged, .changed] ∧
    (empty.writeAll ws).tokens.map Token.text = ["09000000", "a0000000"] ∧
    LastWrite ws t ⟨"a", none⟩ ∧ LastWrite (ws.take 3) t ⟨"a", some ""⟩ ∧
    (ws.map (·.1)).dedup.length = 2 ∧ Records ws (empty.writeAll ws) (empty.writeReports ws) := by
  let t : Token := ⟨160, 0, 0, 0⟩
  let before : List (Token × Entry) :=
    [(t, ⟨"a", none⟩), (⟨9, 0, 0, 0⟩, ⟨"b", some "x"⟩), (t, ⟨"a", some ""⟩)]
  let after : List (Token × Entry) := [(t, ⟨"a", some ""⟩), (t, ⟨"a", none⟩)]
  have hrecords := writeAll_records (before ++ after)
  refine ⟨before ++ after, t, rfl, by decide, by decide, (hrecords.present _ _).mp (by decide), ?_,
    hrecords.size_eq.symm.trans (by decide), hrecords⟩
  -- The fourth write is reported as one of what is there.
  obtain ⟨change, hchange, -, hunchanged, -⟩ :=
    hrecords.reported before t ⟨"a", some ""⟩ [(t, ⟨"a", none⟩)] rfl
  have hreport : change = .unchanged := Option.some.inj (hchange.symm.trans (by decide))
  exact hunchanged.mp hreport

end Registry
end ScopedStyles
