/-! # UTF-8 text as bytes

Hashing, base64 and glob matching read text as its UTF-8 bytes.  `bytes` is the one place where
text becomes bytes; it works character by character, so that it distributes over concatenation
(`bytes_append`).  A text whose bytes another one's start with is where that one starts
(`bytes_prefix_iff`). -/

namespace ScopedStyles.Utf8

/-- The UTF-8 bytes of a list of characters. -/
def bytes (s : List Char) : List UInt8 := s.flatMap String.utf8EncodeChar

@[simp] theorem bytes_nil : bytes [] = [] := rfl

@[simp] theorem bytes_cons (c : Char) (s : List Char) :
    bytes (c :: s) = String.utf8EncodeChar c ++ bytes s := by simp [bytes]

@[simp] theorem bytes_append (s t : List Char) : bytes (s ++ t) = bytes s ++ bytes t := by
  simp [bytes]

theorem toByteArray_bytes (s : List Char) : (bytes s).toByteArray = s.utf8Encode := rfl

theorem bytes_prefix_iff {s t : List Char} : bytes s <+: bytes t ↔ s <+: t := by
  constructor
  · rintro ⟨rest, h⟩
    refine List.isPrefix_of_utf8Encode_append_eq_utf8Encode rest.toByteArray ?_
    rw [← toByteArray_bytes, ← toByteArray_bytes, ← h, List.toByteArray_append]
  · rintro ⟨rest, rfl⟩
    exact ⟨bytes rest, (bytes_append s rest).symm⟩

end ScopedStyles.Utf8
