import ScopedStyles.Address

/-! # Reading and writing tokens and addresses

Digits, tokens and addresses are each written by one function and read by another.  The reader
accepts exactly what the writer produces: `Hex.byte?_eq_some_iff` for a byte,
`Token.ofDigits?_eq_some_iff` for a token, `Address.token?_eq_some_iff` for an address.  What is
written for a token is any eight lowercase hexadecimal digits and nothing else
(`Token.exists_digits`).  The digits of an identity are the first eight of its digest, so that
`Address.codec_exact` can say which ids are addresses and which identities share one. -/

namespace ScopedStyles

/-! ### Digits -/

namespace Hex

theorem value?_digit : ∀ n < 16, value? (digit n) = some n := by decide

theorem digit_mem : ∀ n < 16, digit n ∈ "0123456789abcdef".toList := by decide

theorem digit_of_value? {c : Char} {n : Nat} (h : value? c = some n) : n < 16 ∧ digit n = c := by
  unfold value? at h
  split at h
  · rename_i hc
    have h₁ : 48 ≤ c.toNat := Char.le_def.mp hc.1
    have h₂ : c.toNat ≤ 57 := Char.le_def.mp hc.2
    obtain rfl := Option.some.inj h
    refine ⟨by omega, ?_⟩
    unfold digit
    rw [if_pos (by omega), show 48 + (c.toNat - 48) = c.toNat by omega, Char.ofNat_toNat]
  · split at h
    · rename_i hc
      have h₁ : 97 ≤ c.toNat := Char.le_def.mp hc.1
      have h₂ : c.toNat ≤ 102 := Char.le_def.mp hc.2
      obtain rfl := Option.some.inj h
      refine ⟨by omega, ?_⟩
      unfold digit
      rw [if_neg (by omega), show 87 + (c.toNat - 87) = c.toNat by omega, Char.ofNat_toNat]
    · cases h

theorem byte?_digits (b : UInt8) :
    byte? (digit (b.toNat / 16)) (digit (b.toNat % 16)) = some b := by
  have hb : b.toNat < 256 := b.toNat_lt
  unfold byte?
  rw [value?_digit _ (by omega), value?_digit _ (by omega)]
  show some (UInt8.ofNat (b.toNat / 16 * 16 + b.toNat % 16)) = some b
  rw [show b.toNat / 16 * 16 + b.toNat % 16 = b.toNat by omega, UInt8.ofNat_toNat]

theorem byte?_eq_some_iff {h l : Char} {b : UInt8} : byte? h l = some b ↔ [h, l] = ofByte b := by
  constructor
  · intro hb
    unfold byte? at hb
    cases hh : value? h with
    | none => rw [hh] at hb; cases hb
    | some i =>
        cases hl : value? l with
        | none => rw [hh, hl] at hb; cases hb
        | some j =>
            rw [hh, hl] at hb
            obtain rfl := Option.some.inj hb
            obtain ⟨hi, hdi⟩ := digit_of_value? hh
            obtain ⟨hj, hdj⟩ := digit_of_value? hl
            have e : (UInt8.ofNat (i * 16 + j)).toNat = i * 16 + j := by
              rw [UInt8.toNat_ofNat']
              omega
            unfold ofByte
            rw [e, show (i * 16 + j) / 16 = i by omega, show (i * 16 + j) % 16 = j by omega, hdi,
              hdj]
  · intro he
    obtain ⟨rfl, rfl⟩ : h = digit (b.toNat / 16) ∧ l = digit (b.toNat % 16) := by
      simpa [ofByte] using he
    exact byte?_digits b

theorem value?_isSome_of_mem : ∀ c ∈ "0123456789abcdef".toList, (value? c).isSome = true :=
  List.all_eq_true.mp (by decide)

theorem exists_ofByte {h l : Char} (hh : h ∈ "0123456789abcdef".toList)
    (hl : l ∈ "0123456789abcdef".toList) : ∃ b, [h, l] = ofByte b := by
  obtain ⟨i, hi⟩ := Option.isSome_iff_exists.mp (value?_isSome_of_mem h hh)
  obtain ⟨j, hj⟩ := Option.isSome_iff_exists.mp (value?_isSome_of_mem l hl)
  refine ⟨UInt8.ofNat (i * 16 + j), byte?_eq_some_iff.mp ?_⟩
  unfold byte?
  rw [hi, hj]
  rfl

end Hex

/-! ### Tokens -/

namespace Token

theorem ofDigits?_digits (t : Token) : ofDigits? t.digits = some t := by
  show (do return (⟨← Hex.byte? _ _, ← Hex.byte? _ _, ← Hex.byte? _ _, ← Hex.byte? _ _⟩ : Token)) =
    some t
  rw [Hex.byte?_digits, Hex.byte?_digits, Hex.byte?_digits, Hex.byte?_digits]
  rfl

theorem ofDigits?_eq_some_iff {cs : List Char} {t : Token} :
    ofDigits? cs = some t ↔ cs = t.digits := by
  constructor
  · intro h
    unfold ofDigits? at h
    split at h
    · rename_i c₀ c₁ c₂ c₃ c₄ c₅ c₆ c₇
      simp only [Option.bind_eq_bind, Option.bind_eq_some_iff] at h
      obtain ⟨b₀, h₀, b₁, h₁, b₂, h₂, b₃, h₃, ht⟩ := h
      obtain rfl := Option.some.inj ht
      unfold digits
      rw [← Hex.byte?_eq_some_iff.mp h₀, ← Hex.byte?_eq_some_iff.mp h₁,
        ← Hex.byte?_eq_some_iff.mp h₂, ← Hex.byte?_eq_some_iff.mp h₃]
      rfl
    · cases h
  · rintro rfl
    exact ofDigits?_digits t

theorem length_digits (t : Token) : t.digits.length = 8 := rfl

theorem mem_digits {t : Token} {c : Char} (h : c ∈ t.digits) : c ∈ "0123456789abcdef".toList := by
  have hb (b : UInt8) (hc : c ∈ Hex.ofByte b) : c ∈ "0123456789abcdef".toList := by
    have hlt : b.toNat < 256 := b.toNat_lt
    rcases List.mem_cons.mp hc with rfl | hc
    · exact Hex.digit_mem _ (by omega)
    · obtain rfl := List.mem_singleton.mp hc
      exact Hex.digit_mem _ (by omega)
  simp only [digits, List.mem_append] at h
  rcases h with ((h | h) | h) | h
  · exact hb t.b₀ h
  · exact hb t.b₁ h
  · exact hb t.b₂ h
  · exact hb t.b₃ h

theorem toList_text (t : Token) : t.text.toList = t.digits := String.toList_ofList

/-- Eight lowercase hexadecimal digits. -/
def IsWritten (cs : List Char) : Prop :=
  cs.length = 8 ∧ ∀ c ∈ cs, c ∈ "0123456789abcdef".toList

theorem isWritten_digits (t : Token) : IsWritten t.digits :=
  ⟨t.length_digits, fun _ hc => mem_digits hc⟩

theorem exists_digits {cs : List Char} (h : IsWritten cs) : ∃ t : Token, cs = t.digits := by
  obtain ⟨hlen, hmem⟩ := h
  -- The digits are taken in pairs, and each pair writes a byte.
  match cs, hlen with
  | [c₀, c₁, c₂, c₃, c₄, c₅, c₆, c₇], _ =>
      obtain ⟨b₀, h₀⟩ := Hex.exists_ofByte (hmem c₀ (by simp)) (hmem c₁ (by simp))
      obtain ⟨b₁, h₁⟩ := Hex.exists_ofByte (hmem c₂ (by simp)) (hmem c₃ (by simp))
      obtain ⟨b₂, h₂⟩ := Hex.exists_ofByte (hmem c₄ (by simp)) (hmem c₅ (by simp))
      obtain ⟨b₃, h₃⟩ := Hex.exists_ofByte (hmem c₆ (by simp)) (hmem c₇ (by simp))
      refine ⟨⟨b₀, b₁, b₂, b₃⟩, ?_⟩
      unfold digits
      rw [← h₀, ← h₁, ← h₂, ← h₃]
      rfl

theorem selector_eq (t : Token) : t.selector = "." ++ t.text := by
  apply String.toList_inj.mp
  unfold selector text
  simp only [String.toList_append, String.toList_ofList]
  rfl

/-! ### Tokens of identities -/

theorem exists_digest_eq (x : String) : ∃ rest, (Sha256.digest (Utf8.bytes x.toList)).toList =
    (ofIdentity x).b₀ :: (ofIdentity x).b₁ :: (ofIdentity x).b₂ :: (ofIdentity x).b₃ :: rest := by
  unfold ofIdentity
  generalize Sha256.digest (Utf8.bytes x.toList) = d
  obtain ⟨⟨l⟩, hl⟩ := d
  match l, hl with
  | _ :: _ :: _ :: _ :: rest, _ => exact ⟨rest, rfl⟩

theorem digits_ofIdentity (x : String) : (ofIdentity x).digits =
    ((Sha256.digest (Utf8.bytes x.toList)).toList.flatMap Hex.ofByte).take 8 := by
  obtain ⟨rest, h⟩ := exists_digest_eq x
  rw [h]
  rfl

/-- Identities share a token exactly if their digests begin with the same four bytes. -/
theorem ofIdentity_eq_iff {x y : String} : ofIdentity x = ofIdentity y ↔
    (Sha256.digest (Utf8.bytes x.toList)).toList.take 4 =
      (Sha256.digest (Utf8.bytes y.toList)).toList.take 4 := by
  obtain ⟨restx, hx⟩ := exists_digest_eq x
  obtain ⟨resty, hy⟩ := exists_digest_eq y
  rw [hx, hy]
  cases ofIdentity x
  cases ofIdentity y
  simp

end Token

/-! ### Addresses -/

namespace Address

theorem toList_ofToken (t : Token) :
    (ofToken t).toList = opening.toList ++ (t.digits ++ ending.toList) := by
  unfold ofToken
  rw [String.toList_ofList, List.append_assoc]

theorem ofToken_eq (t : Token) : ofToken t = opening ++ t.text ++ ending := by
  apply String.toList_inj.mp
  unfold Token.text
  rw [toList_ofToken, String.toList_append, String.toList_append, String.toList_ofList,
    List.append_assoc]

theorem afterOpening?_eq_some_iff {p s rest : List Char} :
    afterOpening? p s = some rest ↔ s = p ++ rest := by
  unfold afterOpening?
  rw [Option.ite_none_right_eq_some, List.isPrefixOf_iff_prefix]
  constructor
  · rintro ⟨⟨u, rfl⟩, h⟩
    rw [List.drop_left, Option.some.injEq] at h
    rw [h]
  · rintro rfl
    exact ⟨List.prefix_append p rest, by rw [List.drop_left]⟩

theorem beforeEnding?_eq_some_iff {e s front : List Char} :
    beforeEnding? e s = some front ↔ s = front ++ e := by
  unfold beforeEnding?
  rw [Option.ite_none_right_eq_some, List.isSuffixOf_iff_suffix]
  constructor
  · rintro ⟨⟨u, rfl⟩, h⟩
    rw [List.length_append, Nat.add_sub_cancel, List.take_left, Option.some.injEq] at h
    rw [h]
  · rintro rfl
    exact ⟨List.suffix_append front e, by
      rw [List.length_append, Nat.add_sub_cancel, List.take_left]⟩

/-- The ids that are read as the address of a token are the addresses that are written. -/
theorem token?_eq_some_iff {id : String} {t : Token} : token? id = some t ↔ id = ofToken t := by
  simp only [token?, Option.bind_eq_bind, Option.bind_eq_some_iff, afterOpening?_eq_some_iff,
    beforeEnding?_eq_some_iff, Token.ofDigits?_eq_some_iff]
  constructor
  · rintro ⟨rest, h, digits, rfl, rfl⟩
    apply String.toList_inj.mp
    rw [h, toList_ofToken]
  · rintro rfl
    exact ⟨_, toList_ofToken t, _, rfl, rfl⟩

@[simp] theorem token?_ofToken (t : Token) : token? (ofToken t) = some t :=
  token?_eq_some_iff.mpr rfl

theorem ofToken_injective {t u : Token} (h : ofToken t = ofToken u) : t = u := by
  have ht := token?_ofToken t
  rw [h, token?_ofToken] at ht
  exact (Option.some.inj ht).symm

@[simp] theorem ofToken_inj {t u : Token} : ofToken t = ofToken u ↔ t = u :=
  ⟨ofToken_injective, fun h => h ▸ rfl⟩

@[simp] theorem isVirtual_ofToken (t : Token) : isVirtual (ofToken t) = true := by
  unfold isVirtual
  rw [toList_ofToken, List.isPrefixOf_iff_prefix]
  exact List.prefix_append _ _

/-- The ids that are read as an address are eight digits between the opening and the ending, and
the token that is read has these digits. -/
theorem token?_eq_some_iff_written {id : String} {t : Token} : token? id = some t ↔
    ∃ d : String, Token.IsWritten d.toList ∧ id = opening ++ d ++ ending ∧ t.text = d := by
  rw [token?_eq_some_iff, ofToken_eq]
  constructor
  · intro h
    refine ⟨t.text, ?_, h, rfl⟩
    rw [t.toList_text]
    exact t.isWritten_digits
  · rintro ⟨d, -, h, rfl⟩
    exact h

/-- **The address codec is exact.**  An id is read as the address of a token exactly if it is eight
lowercase hexadecimal digits between `/@miniwind/` and `.css`; every such id is read, as the token
with these digits, and writing the token's address gives the id again.  The token of an identity is
written with the first eight digits of its digest and is read back from its text and from its
address.  Different tokens have different addresses, and two identities have the same token exactly
if their digests begin with the same four bytes. -/
theorem codec_exact :
    (∀ (id : String) (t : Token), token? id = some t ↔ ∃ d : String,
      Token.IsWritten d.toList ∧ id = "/@miniwind/" ++ d ++ ".css" ∧ t.text = d) ∧
    (∀ d : String, Token.IsWritten d.toList → ∃ t, token? ("/@miniwind/" ++ d ++ ".css") = some t) ∧
    (∀ (id : String) (t : Token), token? id = some t → ofToken t = id) ∧
    (∀ x : String, Token.IsWritten (Token.ofIdentity x).text.toList ∧
      (Token.ofIdentity x).text.toList =
        ((Sha256.digest (Utf8.bytes x.toList)).toList.flatMap Hex.ofByte).take 8 ∧
      Token.ofDigits? (Token.ofIdentity x).text.toList = some (.ofIdentity x) ∧
      token? (ofToken (.ofIdentity x)) = some (.ofIdentity x)) ∧
    (∀ t u : Token, ofToken t = ofToken u → t = u) ∧
    ∀ x y : String, Token.ofIdentity x = Token.ofIdentity y ↔
      (Sha256.digest (Utf8.bytes x.toList)).toList.take 4 =
        (Sha256.digest (Utf8.bytes y.toList)).toList.take 4 := by
  refine ⟨fun id t => token?_eq_some_iff_written, fun d hd => ?_,
    fun id t h => (token?_eq_some_iff.mp h).symm, fun x => ⟨?_, ?_, ?_, token?_ofToken _⟩,
    fun t u => ofToken_injective, fun x y => Token.ofIdentity_eq_iff⟩
  · obtain ⟨t, ht⟩ := Token.exists_digits hd
    refine ⟨t, token?_eq_some_iff_written.mpr ⟨d, hd, rfl, ?_⟩⟩
    rw [← String.toList_inj, t.toList_text, ht]
  · rw [Token.toList_text]
    exact Token.isWritten_digits _
  · rw [Token.toList_text, Token.digits_ofIdentity]
  · rw [Token.toList_text, Token.ofDigits?_digits]

/-- The address of the identity `abc`, with the digits that the standard gives for its digest. -/
theorem codec_exact_abc : Token.IsWritten "ba7816bf".toList ∧
    token? "/@miniwind/ba7816bf.css" = some (.ofIdentity "abc") ∧
    ofToken (.ofIdentity "abc") = "/@miniwind/ba7816bf.css" ∧
    ∃ t, token? ("/@miniwind/" ++ "ba7816bf" ++ ".css") = some t := by
  have hw : Token.IsWritten "ba7816bf".toList := ⟨rfl, by simp⟩
  have hread : token? "/@miniwind/ba7816bf.css" = some (.ofIdentity "abc") := by decide +kernel
  exact ⟨hw, hread, codec_exact.2.2.1 _ _ hread, codec_exact.2.1 _ hw⟩

end Address
end ScopedStyles
