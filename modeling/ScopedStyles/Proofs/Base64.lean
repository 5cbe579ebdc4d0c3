import ScopedStyles.Bytes.Base64

/-! # Reading base64 back

What `encode` writes, `decode` reads (`decode_encode`), and it writes nothing but digits and padding
(`mem_encode`).  Both go group by group, along the recursion of `encode`.  A group of four digits
is a number (`decode_single`, `decode_pair`, `decode_group`); the reader looks for padding before it
takes a whole group, and does not find any since no digit is one (`digit_ne_pad`). -/

namespace ScopedStyles.Base64

/-! ### Digits -/

theorem value?_digit : ∀ n < 64, value? (digit n) = some n := by decide

theorem digit_mem (n : Nat) : digit n ∈ alphabet := by
  unfold digit
  rw [List.getD_eq_getElem?_getD]
  cases hc : alphabet[n]? with
  | none => decide
  | some c => exact List.mem_of_getElem? hc

theorem digit_ne_pad (n : Nat) : digit n ≠ '=' := by
  intro he
  have hmem := digit_mem n
  rw [he] at hmem
  exact absurd hmem (by decide)

/-! ### Groups -/

theorem decode_single {n : Nat} (hn : n < 4096) (h : n % 16 = 0) :
    decode [digit (n / 64), digit (n % 64), '=', '='] = some [UInt8.ofNat (n / 16)] := by
  rw [decode.eq_2, value?_digit _ (by omega), value?_digit _ (by omega)]
  show (if (n / 64 * 64 + n % 64) % 16 = 0 then
    some [UInt8.ofNat ((n / 64 * 64 + n % 64) / 16)] else none) = _
  rw [show n / 64 * 64 + n % 64 = n by omega, if_pos h]

theorem decode_pair {n : Nat} (hn : n < 262144) (h : n % 4 = 0) :
    decode [digit (n / 4096), digit (n / 64 % 64), digit (n % 64), '='] =
      some [UInt8.ofNat (n / 1024), UInt8.ofNat (n / 4)] := by
  rw [decode.eq_3 _ _ _ (digit_ne_pad _), value?_digit _ (by omega),
    value?_digit _ (by omega), value?_digit _ (by omega)]
  show (if ((n / 4096 * 64 + n / 64 % 64) * 64 + n % 64) % 4 = 0 then
    some [UInt8.ofNat (((n / 4096 * 64 + n / 64 % 64) * 64 + n % 64) / 1024),
      UInt8.ofNat (((n / 4096 * 64 + n / 64 % 64) * 64 + n % 64) / 4)] else none) = _
  rw [show (n / 4096 * 64 + n / 64 % 64) * 64 + n % 64 = n by omega, if_pos h]

theorem decode_group {n : Nat} (hn : n < 16777216) (rest : List Char) :
    decode (digit (n / 262144) :: digit (n / 4096 % 64) :: digit (n / 64 % 64) :: digit (n % 64) ::
        rest) =
      (decode rest).map fun more =>
        UInt8.ofNat (n / 65536) :: UInt8.ofNat (n / 256) :: UInt8.ofNat n :: more := by
  have hz : digit (n % 64) ≠ '=' := digit_ne_pad _
  rw [decode.eq_4 _ _ _ _ _ (fun _ he => absurd he hz) (fun he => absurd he hz),
    value?_digit _ (by omega), value?_digit _ (by omega), value?_digit _ (by omega),
    value?_digit _ (by omega)]
  have e : ((n / 262144 * 64 + n / 4096 % 64) * 64 + n / 64 % 64) * 64 + n % 64 = n := by omega
  simp only [Option.bind_eq_bind, Option.bind_some, e]
  cases decode rest <;> rfl

/-! ### Texts -/

/-- A byte is what is left of a number that it is the last digit of. -/
theorem ofNat_add_toNat (k : Nat) (b : UInt8) : UInt8.ofNat (k * 256 + b.toNat) = b := by
  have hb : b.toNat < 256 := b.toNat_lt
  apply UInt8.toNat_inj.mp
  rw [UInt8.toNat_ofNat']
  omega

/-- What is written is read back. -/
theorem decode_encode : ∀ bs : List UInt8, decode (encode bs) = some bs
  | [] => rfl
  | [a] => by
      have ha : a.toNat < 256 := a.toNat_lt
      rw [encode, decode_single (by omega) (by omega), Nat.mul_div_cancel _ (by decide),
        UInt8.ofNat_toNat]
  | [a, b] => by
      have ha : a.toNat < 256 := a.toNat_lt
      have hb : b.toNat < 256 := b.toNat_lt
      rw [encode, decode_pair (by omega) (by omega), Nat.mul_div_cancel _ (by decide),
        ofNat_add_toNat,
        show (a.toNat * 256 + b.toNat) * 4 / 1024 = a.toNat by omega, UInt8.ofNat_toNat]
  | a :: b :: c :: rest => by
      have ha : a.toNat < 256 := a.toNat_lt
      have hb : b.toNat < 256 := b.toNat_lt
      have hc : c.toNat < 256 := c.toNat_lt
      rw [encode, decode_group (by omega), decode_encode rest, ofNat_add_toNat,
        show ((a.toNat * 256 + b.toNat) * 256 + c.toNat) / 256 = a.toNat * 256 + b.toNat by omega,
        ofNat_add_toNat,
        show ((a.toNat * 256 + b.toNat) * 256 + c.toNat) / 65536 = a.toNat by omega,
        UInt8.ofNat_toNat]
      rfl

theorem mem_encode {c : Char} : ∀ {bs : List UInt8}, c ∈ encode bs → c ∈ alphabet ∨ c = '='
  | [_], h => by
      simp only [encode, List.mem_cons, List.not_mem_nil, or_false] at h
      rcases h with rfl | rfl | h | h
      · exact .inl (digit_mem _)
      · exact .inl (digit_mem _)
      · exact .inr h
      · exact .inr h
  | [_, _], h => by
      simp only [encode, List.mem_cons, List.not_mem_nil, or_false] at h
      rcases h with rfl | rfl | rfl | h
      · exact .inl (digit_mem _)
      · exact .inl (digit_mem _)
      · exact .inl (digit_mem _)
      · exact .inr h
  | _ :: _ :: _ :: _, h => by
      simp only [encode, List.mem_cons] at h
      rcases h with rfl | rfl | rfl | rfl | h
      · exact .inl (digit_mem _)
      · exact .inl (digit_mem _)
      · exact .inl (digit_mem _)
      · exact .inl (digit_mem _)
      · exact mem_encode h

end ScopedStyles.Base64
