import Mathlib.Tactic.SplitIfs
import TextRules.Text.Utf8

/-!
UTF-8 reads what it writes. The first byte of a character tells how many follow and between which bounds the next
    one lies, and each of the others adds six bits. So a text that was written is read again, whatever follows it.
    What is written is the encoding of the standard library, so a text has as many bytes as it says (`length_encode`).
-/

namespace TextRules
namespace Utf8

theorem toNat_ofNat {n : Nat} (valid : n.isValidChar) : (Char.ofNat n).toNat = n := by
  rw [Char.ofNat, dif_pos valid]
  rfl

/-! ### First bytes -/

theorem toNat_continuation (n : Nat) : (continuation n).toNat = 0x80 + n % 0x40 := by
  rw [continuation, UInt8.toNat_ofNat']
  omega

/-- What a byte begins, told by its number. -/
theorem begin?_eq (b : UInt8) : begin? b =
    if b.toNat < 0x80 then some (.inl (Char.ofNat b.toNat))
    else if b.toNat < 0xC2 then none
    else if b.toNat < 0xE0 then some (.inr ⟨b.toNat - 0xC0, 1, 0x80, 0xBF⟩)
    else if b.toNat < 0xF0 then
      some (.inr ⟨b.toNat - 0xE0, 2, if b.toNat = 0xE0 then 0xA0 else 0x80, if b.toNat = 0xED then 0x9F else 0xBF⟩)
    else if b.toNat < 0xF5 then
      some (.inr ⟨b.toNat - 0xF0, 3, if b.toNat = 0xF0 then 0x90 else 0x80, if b.toNat = 0xF4 then 0x8F else 0xBF⟩)
    else none := by
  simp only [begin?, UInt8.lt_iff_toNat_lt, ← UInt8.toNat_inj]
  rfl

theorem continuation_bounds (n : Nat) : 0x80 ≤ continuation n ∧ continuation n ≤ 0xBF := by
  simp [UInt8.le_iff_toNat_le, toNat_continuation]
  omega

theorem begin?_one {n : Nat} (small : n < 0x80) : begin? (UInt8.ofNat n) = some (.inl (Char.ofNat n)) := by
  have byte : (UInt8.ofNat n).toNat = n := by
    rw [UInt8.toNat_ofNat']
    omega
  rw [begin?_eq, byte, if_pos small]

theorem begin?_two {n : Nat} (large : 0x80 ≤ n) (small : n < 0x800) :
    begin? (UInt8.ofNat (0xC0 + n / 0x40)) = some (.inr ⟨n / 0x40, 1, 0x80, 0xBF⟩) := by
  have byte : (UInt8.ofNat (0xC0 + n / 0x40)).toNat = 0xC0 + n / 0x40 := by
    rw [UInt8.toNat_ofNat']
    omega
  rw [begin?_eq, byte, if_neg (by omega), if_neg (by omega), if_pos (by omega), Nat.add_sub_cancel_left]

/-- The bounds leave out numbers that fit into fewer bytes, and surrogates. -/
theorem begin?_three {n : Nat} (large : 0x800 ≤ n) (small : n < 0x10000) (scalar : n < 0xD800 ∨ 0xDFFF < n) :
    ∃ low high, begin? (UInt8.ofNat (0xE0 + n / 0x1000)) = some (.inr ⟨n / 0x1000, 2, low, high⟩) ∧
      low ≤ continuation (n / 0x40) ∧ continuation (n / 0x40) ≤ high := by
  have byte : (UInt8.ofNat (0xE0 + n / 0x1000)).toNat = 0xE0 + n / 0x1000 := by
    rw [UInt8.toNat_ofNat']
    omega
  rw [begin?_eq, byte, if_neg (by omega), if_neg (by omega), if_neg (by omega), if_pos (by omega),
    Nat.add_sub_cancel_left]
  refine ⟨_, _, rfl, ?_⟩
  simp only [UInt8.le_iff_toNat_le, toNat_continuation]
  constructor <;> split_ifs <;> simp <;> omega

/-- The bounds leave out numbers that fit into fewer bytes, and those that are no characters. -/
theorem begin?_four {n : Nat} (large : 0x10000 ≤ n) (small : n < 0x110000) :
    ∃ low high, begin? (UInt8.ofNat (0xF0 + n / 0x40000)) = some (.inr ⟨n / 0x40000, 3, low, high⟩) ∧
      low ≤ continuation (n / 0x1000) ∧ continuation (n / 0x1000) ≤ high := by
  have byte : (UInt8.ofNat (0xF0 + n / 0x40000)).toNat = 0xF0 + n / 0x40000 := by
    rw [UInt8.toNat_ofNat']
    omega
  rw [begin?_eq, byte, if_neg (by omega), if_neg (by omega), if_neg (by omega), if_neg (by omega),
    if_pos (by omega), Nat.add_sub_cancel_left]
  refine ⟨_, _, rfl, ?_⟩
  simp only [UInt8.le_iff_toNat_le, toNat_continuation]
  constructor <;> split_ifs <;> simp <;> omega

/-! ### Characters -/

theorem decodeFrom_begin {b : UInt8} {u : Unfinished} (h : begin? b = some (.inr u)) (bytes : List UInt8) :
    decodeFrom none (b :: bytes) = decodeFrom (some u) bytes := by
  rw [decodeFrom, step, start, h]
  rfl

theorem decodeFrom_next {bits missing n : Nat} {low high : UInt8}
    (expected : low ≤ continuation n ∧ continuation n ≤ high) (bytes : List UInt8) :
    decodeFrom (some ⟨bits, missing + 2, low, high⟩) (continuation n :: bytes) =
      decodeFrom (some ⟨bits * 0x40 + n % 0x40, missing + 1, 0x80, 0xBF⟩) bytes := by
  rw [decodeFrom, step]
  simp only [if_pos expected, toNat_continuation, Nat.add_sub_cancel_left]
  rw [if_neg (by omega)]
  rfl

theorem decodeFrom_last {bits n : Nat} {low high : UInt8}
    (expected : low ≤ continuation n ∧ continuation n ≤ high) (bytes : List UInt8) :
    decodeFrom (some ⟨bits, 1, low, high⟩) (continuation n :: bytes) =
      some (Char.ofNat (bits * 0x40 + n % 0x40)) :: decodeFrom none bytes := by
  rw [decodeFrom, step]
  simp only [if_pos expected, toNat_continuation, Nat.add_sub_cancel_left]
  rfl

/-- A character that was written is read, whatever follows it. -/
theorem decodeFrom_encodeChar (c : Char) (bytes : List UInt8) :
    decodeFrom none (encodeChar c ++ bytes) = some c :: decodeFrom none bytes := by
  have own : ∀ n, n = c.toNat → some (Char.ofNat n) = some c := by
    rintro _ rfl
    rw [Char.ofNat_toNat]
  have scalar : c.toNat < 0xD800 ∨ 0xDFFF < c.toNat ∧ c.toNat < 0x110000 := c.valid
  simp only [encodeChar]
  split_ifs with one two three
  · rw [List.singleton_append, decodeFrom, step, start, begin?_one one, Char.ofNat_toNat]
    rfl
  · simp only [List.cons_append, List.nil_append]
    rw [decodeFrom_begin (begin?_two (by omega) two), decodeFrom_last (continuation_bounds _), own _ (by omega)]
  · obtain ⟨low, high, begins, expected⟩ := begin?_three (by omega) three (by omega)
    simp only [List.cons_append, List.nil_append]
    rw [decodeFrom_begin begins, decodeFrom_next expected, decodeFrom_last (continuation_bounds _), own _ (by omega)]
  · obtain ⟨low, high, begins, expected⟩ := begin?_four (n := c.toNat) (by omega) (by omega)
    simp only [List.cons_append, List.nil_append]
    rw [decodeFrom_begin begins, decodeFrom_next expected, decodeFrom_next (continuation_bounds _),
      decodeFrom_last (continuation_bounds _), own _ (by omega)]

/-! ### The standard encoding -/

/-- Characters are written as the standard library writes them. -/
theorem encodeChar_eq (c : Char) : encodeChar c = String.utf8EncodeChar c := by
  have scalar : c.toNat < 0xD800 ∨ 0xDFFF < c.toNat ∧ c.toNat < 0x110000 := c.valid
  have own : c.val.toNat = c.toNat := rfl
  have last : ∀ n, continuation n = UInt8.ofNat (n % 64 + 128) := fun n => congrArg UInt8.ofNat (Nat.add_comm _ _)
  simp only [encodeChar, String.utf8EncodeChar, own]
  by_cases one : c.toNat ≤ 127
  · rw [if_pos one, if_pos (Nat.lt_succ_of_le one)]
  rw [if_neg one, if_neg (fun small => one (Nat.le_of_lt_succ small))]
  by_cases two : c.toNat ≤ 2047
  · rw [if_pos two, if_pos (Nat.lt_succ_of_le two), last, Nat.mod_eq_of_lt (by omega : c.toNat / 64 < 32),
      Nat.add_comm 0xC0]
  rw [if_neg two, if_neg (fun small => two (Nat.le_of_lt_succ small))]
  by_cases three : c.toNat ≤ 65535
  · rw [if_pos three, if_pos (Nat.lt_succ_of_le three), last, last, Nat.mod_eq_of_lt (by omega : c.toNat / 4096 < 16),
      Nat.add_comm 0xE0]
  rw [if_neg three, if_neg (fun small => three (Nat.le_of_lt_succ small)), last, last, last,
    Nat.mod_eq_of_lt (by omega : c.toNat / 262144 < 8), Nat.add_comm 0xF0]

theorem length_encode (t : String) : (encode t.toList).length = t.utf8ByteSize := by
  have written : encode t.toList = t.toList.flatMap String.utf8EncodeChar :=
    congrArg (List.flatMap · t.toList) (funext encodeChar_eq)
  have bytes : t.toByteArray = (encode t.toList).toByteArray := by
    rw [written, ← List.utf8Encode, ← String.toByteArray_ofList, String.ofList_toList]
  rw [← String.size_toByteArray, bytes, List.size_toByteArray]

/-! ### Texts -/

theorem decodeFrom_encode (cs : List Char) (bytes : List UInt8) :
    decodeFrom none (encode cs ++ bytes) = ofText cs ++ decodeFrom none bytes := by
  induction cs with
  | nil => rfl
  | cons c cs ih =>
    rw [encode, List.flatMap_cons, List.append_assoc, decodeFrom_encodeChar, ← encode, ih]
    rfl

/-- A text that was written is read. -/
theorem decode_encode (cs : List Char) : decode (encode cs) = ofText cs := by
  have whole := decodeFrom_encode cs []
  rwa [List.append_nil, decodeFrom, if_neg (by simp), List.append_nil] at whole

end Utf8
end TextRules
