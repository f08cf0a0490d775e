/-! The bytes of a text. UTF-8 keeps the order of characters, so texts are in the order of their
bytes. -/
namespace ObservedConfig.Text

def bytes (s : String) : List UInt8 := s.toUTF8.data.toList

theorem bytes_eq (s : String) : bytes s = s.toList.flatMap String.utf8EncodeChar := by
  have encoded : s.toByteArray = s.toList.utf8Encode := by
    rw [← String.toByteArray_ofList, String.ofList_toList]
  rw [bytes, String.toUTF8, encoded, List.utf8Encode, List.data_toByteArray]

/-- A lesser character has lesser bytes, whatever follows. -/
theorem encode_lt {a b : Char} (less : a < b) (later later' : List UInt8) :
    String.utf8EncodeChar a ++ later < String.utf8EncodeChar b ++ later' := by
  have order : a.val.toNat < b.val.toNat := UInt32.lt_iff_toNat_lt.mp (Char.lt_def.mp less)
  have bound : b.val.toNat < 1114112 := by
    rcases b.valid with low | ⟨-, high⟩
    · have : b.val.toNat < 55296 := low
      omega
    · exact high
  unfold String.utf8EncodeChar
  generalize a.val.toNat = v at *
  generalize b.val.toNat = w at *
  have twice (n : Nat) : n / 4096 = n / 64 / 64 := (Nat.div_div_eq_div_mul n 64 64).symm
  have thrice (n : Nat) : n / 262144 = n / 64 / 64 / 64 := by
    rw [← twice, Nat.div_div_eq_div_mul]
  dsimp only
  -- One case for each pair of lengths. Of two different lengths the greater has the greater first
  -- byte; of one length the bytes are the digits of the code, highest first.
  repeat' split
  all_goals
    simp only [List.cons_append, List.nil_append, List.cons_lt_cons_iff, UInt8.lt_iff_toNat_lt,
      ← UInt8.toNat_inj, UInt8.toNat_ofNat', twice, thrice]
    omega

theorem flatMap_encode_lt {s t : List Char} (less : s < t) :
    s.flatMap String.utf8EncodeChar < t.flatMap String.utf8EncodeChar := by
  induction t generalizing s with
  | nil => cases less
  | cons b t ih =>
    cases s with
    | nil =>
      obtain ⟨first, rest, encoded⟩ :=
        List.exists_cons_of_ne_nil (String.utf8EncodeChar_ne_nil (c := b))
      simp [encoded]
    | cons a s =>
      rw [List.flatMap_cons, List.flatMap_cons]
      rcases List.cons_lt_cons_iff.mp less with first | ⟨rfl, later⟩
      · exact encode_lt first _ _
      · exact List.append_left_lt (ih later)

/-- The order of texts is the order of their bytes. -/
theorem bytes_lt {s t : String} (less : s < t) : bytes s < bytes t := by
  rw [bytes_eq, bytes_eq]
  exact flatMap_encode_lt (String.lt_iff.mp less)

end ObservedConfig.Text
