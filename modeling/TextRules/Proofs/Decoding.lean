import TextRules.Proofs.Encoding

/-!
What UTF-8 makes of any bytes. They fall into pieces in one way only: each piece is a character, or it is ill-formed and
    as long as it can be, the front of a character that the next byte does not continue, or else a single byte
    (`Segmented`). Decoding gives a symbol for each piece (`segmented_iff`). What is unfinished after some bytes is
    told by the characters that begin with them (`Unfinished.After`), and each byte completes such a character, goes
    on in it, or shows that there is none (`After.step_cases`). No character begins with a byte that continues one, so
    text behind any bytes is read as if it stood alone (`decode_append_encode`).
-/

namespace TextRules
namespace Utf8

/-! ### Pieces -/

/-- A piece of bytes at the front of others that is no character. It is the front of a character, or a single byte, and
    with the next byte it is the front of none. -/
structure IllFormed (piece rest : List UInt8) : Prop where
  nonempty : piece ≠ []
  wrong : ∀ c, ¬encodeChar c <+: piece ++ rest
  begun : piece.length = 1 ∨ ∃ c, piece <+: encodeChar c
  longest : ∀ b ∈ rest.head?, ∀ c, ¬piece ++ [b] <+: encodeChar c

/-- Bytes cut into characters and ill-formed pieces, with a symbol for each. -/
inductive Segmented : List UInt8 → List Symbol → Prop where
  | nil : Segmented [] []
  | char (c : Char) {bytes : List UInt8} {symbols : List Symbol} (h : Segmented bytes symbols) :
      Segmented (encodeChar c ++ bytes) (some c :: symbols)
  | illFormed {piece bytes : List UInt8} {symbols : List Symbol} (wrong : IllFormed piece bytes)
      (h : Segmented bytes symbols) : Segmented (piece ++ bytes) (none :: symbols)

section Pieces
variable {piece piece' rest rest' bytes : List UInt8} {symbols symbols' : List Symbol} {c d : Char}

theorem encodeChar_ne_nil (c : Char) : encodeChar c ≠ [] := by
  simp only [encodeChar]
  split_ifs <;> simp

theorem encodeChar_append_inj (same : encodeChar c ++ rest = encodeChar d ++ rest') : c = d ∧ rest = rest' := by
  have read : some c :: decodeFrom none rest = some d :: decodeFrom none rest' := by
    rw [← decodeFrom_encodeChar, ← decodeFrom_encodeChar, same]
  obtain rfl := Option.some.inj (List.cons.inj read).1
  exact ⟨rfl, List.append_cancel_left same⟩

/-- A longer piece would be the front of a character together with the next byte behind the shorter one. -/
theorem IllFormed.length_le (wrong : IllFormed piece rest) (wrong' : IllFormed piece' rest')
    (same : piece ++ rest = piece' ++ rest') : piece'.length ≤ piece.length := by
  refine Nat.not_lt.mp fun longer => ?_
  obtain ⟨more, rfl, behind⟩ | ⟨more, rfl, -⟩ := List.append_eq_append_iff.mp same
  · cases more with
    | nil => simp at longer
    | cons b more =>
      obtain single | ⟨c, begun⟩ := wrong'.begun
      · have := List.length_pos_iff.mpr wrong.nonempty
        simp at single
        omega
      · refine wrong.longest b (by simp [behind]) c (List.IsPrefix.trans ?_ begun)
        exact ⟨more, by simp⟩
  · rw [List.length_append] at longer
    omega

theorem IllFormed.unique (wrong : IllFormed piece rest) (wrong' : IllFormed piece' rest')
    (same : piece ++ rest = piece' ++ rest') : piece = piece' ∧ rest = rest' :=
  List.append_inj same (Nat.le_antisymm (wrong'.length_le wrong same.symm) (wrong.length_le wrong' same))

theorem Segmented.unique (h : Segmented bytes symbols) (h' : Segmented bytes symbols') : symbols = symbols' := by
  induction h generalizing symbols' with
  | nil =>
    generalize empty : ([] : List UInt8) = none' at h'
    cases h' with
    | nil => rfl
    | char c h' => exact absurd (List.append_eq_nil_iff.mp empty.symm).1 (encodeChar_ne_nil c)
    | illFormed wrong h' => exact absurd (List.append_eq_nil_iff.mp empty.symm).1 wrong.nonempty
  | @char c bytes symbols h ih =>
    generalize same : encodeChar c ++ bytes = whole at h'
    cases h' with
    | nil => exact absurd (List.append_eq_nil_iff.mp same).1 (encodeChar_ne_nil c)
    | char d h' =>
      obtain ⟨rfl, rfl⟩ := encodeChar_append_inj same
      rw [ih h']
    | illFormed wrong h' => exact absurd ⟨_, same⟩ (wrong.wrong c)
  | @illFormed piece bytes symbols wrong h ih =>
    generalize same : piece ++ bytes = whole at h'
    cases h' with
    | nil => exact absurd (List.append_eq_nil_iff.mp same).1 wrong.nonempty
    | char d h' => exact absurd ⟨_, same.symm⟩ (wrong.wrong d)
    | illFormed wrong' h' =>
      obtain ⟨rfl, rfl⟩ := wrong.unique wrong' same
      rw [ih h']

end Pieces

/-! ### Unfinished characters -/

/-- What is left of a number when its last groups of six bits are taken off. -/
def above (n : Nat) : Nat → Nat
  | 0 => n
  | groups + 1 => above n groups / 0x40

/-- The bytes of a character behind those in front. -/
def lastBytes (n : Nat) : Nat → List UInt8
  | 0 => []
  | groups + 1 => continuation (above n groups) :: lastBytes n groups

theorem exists_above (m groups : Nat) : ∃ n, above n groups = m := by
  induction groups generalizing m with
  | zero => exact ⟨m, rfl⟩
  | succ groups ih =>
    obtain ⟨n, whole_eq⟩ := ih (m * 0x40)
    exact ⟨n, by rw [above, whole_eq]; omega⟩

/-- A byte that continues a character holds six bits. -/
theorem sub_lt_of_le {b : UInt8} (high : b ≤ 0xBF) : b.toNat - 0x80 < 0x40 := by
  have bound := UInt8.le_iff_toNat_le.mp high
  simp at bound
  omega

theorem continuation_eq {b : UInt8} {n : Nat} (low : 0x80 ≤ b) (high : b ≤ 0xBF) (bits : n % 0x40 = b.toNat - 0x80) :
    continuation n = b := by
  rw [UInt8.le_iff_toNat_le] at low high
  simp at low high
  rw [← UInt8.toNat_inj, toNat_continuation]
  omega

/-- A range of bytes that continue a character. -/
def Continues (low high : UInt8) : Prop := 0x80 ≤ low ∧ low ≤ high ∧ high ≤ 0xBF

theorem continues_any : Continues 0x80 0xBF := ⟨by decide, by decide, by decide⟩

theorem continues_narrowed {p q : Prop} [Decidable p] [Decidable q] {low high : UInt8} (apart : p → ¬q)
    (first : Continues low 0xBF) (last : Continues 0x80 high) :
    Continues (if p then low else 0x80) (if q then high else 0xBF) := by
  by_cases holds : p
  · rw [if_pos holds, if_neg (apart holds)]
    exact first
  · rw [if_neg holds]
    split
    · exact last
    · exact continues_any

/-- What is unfinished after some bytes. Any number with the bits so far and a next byte within the range is a character
    that begins with these bytes, and after them the rest is read in this state. -/
structure Unfinished.After (u : Unfinished) (read : List UInt8) : Prop where
  nonempty : read ≠ []
  some_missing : 0 < u.missing
  bounds : Continues u.low u.high
  completed : ∀ n groups, u.missing = groups + 1 → above n u.missing = u.bits →
    u.low ≤ continuation (above n groups) → continuation (above n groups) ≤ u.high →
    ∃ c : Char, c.toNat = n ∧ encodeChar c = read ++ lastBytes n u.missing
  reached : ∀ rest, decodeFrom none (read ++ rest) = decodeFrom (some u) rest

/-- Bytes that are read as ill-formed whatever follows them begin no character. -/
theorem not_begun {bytes : List UInt8} (marked : ∀ more, ∃ symbols, decodeFrom none (bytes ++ more) = none :: symbols)
    (c : Char) : ¬bytes <+: encodeChar c := by
  rintro ⟨more, whole⟩
  obtain ⟨symbols, ill⟩ := marked more
  have read := decodeFrom_encodeChar c []
  rw [List.append_nil, ← whole, ill] at read
  cases read

theorem exists_char {n : Nat} (valid : n < 0xD800 ∨ 0xDFFF < n ∧ n < 0x110000) : ∃ c : Char, c.toNat = n :=
  ⟨Char.ofNat n, toNat_ofNat valid⟩

theorem eq_lead {b : UInt8} {m : Nat} (same : m = b.toNat) : UInt8.ofNat m = b := by
  rw [same, UInt8.ofNat_toNat]

theorem after_two {b : UInt8} (large : 0xC2 ≤ b.toNat) (small : b.toNat < 0xE0) :
    Unfinished.After ⟨b.toNat - 0xC0, 1, 0x80, 0xBF⟩ [b] := by
  refine ⟨by simp, Nat.one_pos, continues_any, ?_, decodeFrom_begin ?_⟩
  · intro n groups missing bits _ _
    simp only [above] at bits
    obtain ⟨c, rfl⟩ := exists_char (n := n) (by omega)
    refine ⟨c, rfl, ?_⟩
    rw [encodeChar, if_neg (by omega), if_pos (by omega), eq_lead (b := b) (by omega)]
    rfl
  · rw [begin?_eq, if_neg (by omega), if_neg (by omega), if_pos (by omega)]

theorem after_three {b : UInt8} (large : 0xE0 ≤ b.toNat) (small : b.toNat < 0xF0) :
    Unfinished.After ⟨b.toNat - 0xE0, 2, if b.toNat = 0xE0 then 0xA0 else 0x80, if b.toNat = 0xED then 0x9F else 0xBF⟩
      [b] := by
  have bounds := continues_narrowed (p := b.toNat = 0xE0) (q := b.toNat = 0xED) (by omega)
    (⟨by decide, by decide, by decide⟩ : Continues 0xA0 0xBF) (⟨by decide, by decide, by decide⟩ : Continues 0x80 0x9F)
  refine ⟨by simp, Nat.two_pos, bounds, ?_, decodeFrom_begin ?_⟩
  · intro n groups missing bits lower upper
    obtain rfl : groups = 1 := (Nat.succ.inj missing).symm
    simp only [above] at bits lower upper
    rw [UInt8.le_iff_toNat_le, toNat_continuation] at lower upper
    -- The bounds leave out numbers that fit into fewer bytes, and surrogates.
    have least : b.toNat = 0xE0 → 0xA0 ≤ 0x80 + n / 0x40 % 0x40 := fun first => by simpa [first] using lower
    have most : b.toNat = 0xED → 0x80 + n / 0x40 % 0x40 ≤ 0x9F := fun last => by simpa [last] using upper
    obtain ⟨c, rfl⟩ := exists_char (n := n) (by omega)
    refine ⟨c, rfl, ?_⟩
    rw [encodeChar, if_neg (by omega), if_neg (by omega), if_pos (by omega), eq_lead (b := b) (by omega)]
    rfl
  · rw [begin?_eq, if_neg (by omega), if_neg (by omega), if_neg (by omega), if_pos (by omega)]

theorem after_four {b : UInt8} (large : 0xF0 ≤ b.toNat) (small : b.toNat < 0xF5) :
    Unfinished.After ⟨b.toNat - 0xF0, 3, if b.toNat = 0xF0 then 0x90 else 0x80, if b.toNat = 0xF4 then 0x8F else 0xBF⟩
      [b] := by
  have bounds := continues_narrowed (p := b.toNat = 0xF0) (q := b.toNat = 0xF4) (by omega)
    (⟨by decide, by decide, by decide⟩ : Continues 0x90 0xBF) (⟨by decide, by decide, by decide⟩ : Continues 0x80 0x8F)
  refine ⟨by simp, Nat.succ_pos 2, bounds, ?_, decodeFrom_begin ?_⟩
  · intro n groups missing bits lower upper
    obtain rfl : groups = 2 := (Nat.succ.inj missing).symm
    simp only [above] at bits lower upper
    rw [UInt8.le_iff_toNat_le, toNat_continuation] at lower upper
    -- The bounds leave out numbers that fit into fewer bytes, and those that are too large.
    have least : b.toNat = 0xF0 → 0x90 ≤ 0x80 + n / 0x40 / 0x40 % 0x40 := fun first => by simpa [first] using lower
    have most : b.toNat = 0xF4 → 0x80 + n / 0x40 / 0x40 % 0x40 ≤ 0x8F := fun last => by simpa [last] using upper
    obtain ⟨c, rfl⟩ := exists_char (n := n) (by omega)
    refine ⟨c, rfl, ?_⟩
    rw [encodeChar, if_neg (by omega), if_neg (by omega), if_neg (by omega), eq_lead (b := b) (by omega)]
    simp only [lastBytes, above, Nat.div_div_eq_div_mul]
    rfl
  · rw [begin?_eq, if_neg (by omega), if_neg (by omega), if_neg (by omega), if_neg (by omega), if_pos (by omega)]

/-- A byte is a character, begins one, or is ill-formed. -/
theorem begin_cases (b : UInt8) : (∃ c, encodeChar c = [b]) ∨ (∃ u : Unfinished, u.After [b]) ∨
    ∀ bytes, decodeFrom none (b :: bytes) = none :: decodeFrom none bytes := by
  have refused : begin? b = none → ∀ bytes, decodeFrom none (b :: bytes) = none :: decodeFrom none bytes := by
    intro none bytes
    rw [decodeFrom, step, start, none]
    rfl
  by_cases one : b.toNat < 0x80
  · have own : (Char.ofNat b.toNat).toNat = b.toNat := toNat_ofNat (Or.inl (by omega))
    exact Or.inl ⟨_, by rw [encodeChar, own, if_pos one, UInt8.ofNat_toNat]⟩
  by_cases tail : b.toNat < 0xC2
  · exact Or.inr (Or.inr (refused (by rw [begin?_eq, if_neg one, if_pos tail])))
  by_cases two : b.toNat < 0xE0
  · exact Or.inr (Or.inl ⟨_, after_two (by omega) two⟩)
  by_cases three : b.toNat < 0xF0
  · exact Or.inr (Or.inl ⟨_, after_three (by omega) three⟩)
  by_cases four : b.toNat < 0xF5
  · exact Or.inr (Or.inl ⟨_, after_four (by omega) four⟩)
  · refine Or.inr (Or.inr (refused ?_))
    rw [begin?_eq, if_neg one, if_neg tail, if_neg two, if_neg three, if_neg four]

theorem decodeFrom_char {b : UInt8} {c : Char} (whole : encodeChar c = [b]) (bytes : List UInt8) :
    decodeFrom none (b :: bytes) = some c :: decodeFrom none bytes := by
  rw [← decodeFrom_encodeChar, whole, List.singleton_append]

/-- A byte that does not go on in a character is read anew. -/
theorem decodeFrom_refused {u : Unfinished} {b : UInt8} (refused : ¬(u.low ≤ b ∧ b ≤ u.high)) (bytes : List UInt8) :
    decodeFrom (some u) (b :: bytes) = none :: decodeFrom none (b :: bytes) := by
  rw [decodeFrom, step.eq_def, decodeFrom, step.eq_def]
  simp only [if_neg refused, List.cons_append]

namespace Unfinished.After
variable {u : Unfinished} {read : List UInt8}

/-- Some character begins with the bytes. -/
theorem exists_begun (h : u.After read) : ∃ c, read <+: encodeChar c := by
  obtain ⟨groups, missing⟩ := Nat.exists_eq_add_one.mpr h.some_missing
  obtain ⟨low, ordered, high⟩ := h.bounds
  obtain ⟨n, whole_eq⟩ := exists_above (u.bits * 0x40 + (u.low.toNat - 0x80)) groups
  have within := sub_lt_of_le (UInt8.le_trans ordered high)
  have next : continuation (above n groups) = u.low :=
    continuation_eq low (UInt8.le_trans ordered high) (by rw [whole_eq]; omega)
  obtain ⟨c, -, whole⟩ := h.completed n groups missing (by rw [missing, above, whole_eq]; omega)
    (by rw [next]; exact UInt8.le_refl _) (by rw [next]; exact ordered)
  exact ⟨c, whole ▸ List.prefix_append _ _⟩

/-- A byte completes a character, goes on in one, or shows that what was read before it is ill-formed. -/
theorem step_cases (h : u.After read) (b : UInt8) : (∃ c, encodeChar c = read ++ [b]) ∨
    (∃ u' : Unfinished, u'.After (read ++ [b])) ∨ ¬(u.low ≤ b ∧ b ≤ u.high) := by
  obtain ⟨groups, missing⟩ := Nat.exists_eq_add_one.mpr h.some_missing
  obtain ⟨low, ordered, high⟩ := h.bounds
  by_cases within : u.low ≤ b ∧ b ≤ u.high
  · have lower := UInt8.le_trans low within.1
    have upper := UInt8.le_trans within.2 high
    have six := sub_lt_of_le upper
    -- A number with the new bits has the old ones, and this byte in its place.
    have old : ∀ n, above n groups = u.bits * 0x40 + (b.toNat - 0x80) →
        ∃ c : Char, c.toNat = n ∧ encodeChar c = read ++ [b] ++ lastBytes n groups := by
      intro n whole_eq
      have next : continuation (above n groups) = b := continuation_eq lower upper (by rw [whole_eq]; omega)
      obtain ⟨c, char, whole⟩ := h.completed n groups missing (by rw [missing, above, whole_eq]; omega)
        (by rw [next]; exact within.1) (by rw [next]; exact within.2)
      refine ⟨c, char, ?_⟩
      rw [whole, missing, lastBytes, next, List.append_assoc, List.singleton_append]
    cases groups with
    | zero =>
      obtain ⟨c, -, whole⟩ := old _ rfl
      exact Or.inl ⟨c, by rw [whole, lastBytes, List.append_nil]⟩
    | succ groups =>
      have goes : step (some u) b = ([], some ⟨u.bits * 0x40 + (b.toNat - 0x80), u.missing - 1, 0x80, 0xBF⟩) := by
        rw [step, if_pos within, if_neg (by omega)]
      refine Or.inr (Or.inl ⟨⟨u.bits * 0x40 + (b.toNat - 0x80), u.missing - 1, 0x80, 0xBF⟩, ?_⟩)
      refine ⟨by simp, ?_, continues_any, ?_, fun rest => ?_⟩
      · simp only
        omega
      · intro n groups' missing' bits _ _
        simp only at missing' bits ⊢
        obtain rfl : groups' = groups := by omega
        rw [missing, Nat.add_sub_cancel] at bits ⊢
        exact old n bits
      · rw [List.append_assoc, h.reached, List.singleton_append, decodeFrom, goes]
        rfl
  · exact Or.inr (Or.inr within)

theorem completes (h : u.After read) {b : UInt8} {c : Char} (whole : encodeChar c = read ++ [b]) (bytes : List UInt8) :
    decodeFrom (some u) (b :: bytes) = some c :: decodeFrom none bytes := by
  rw [← h.reached, List.append_cons, ← whole, decodeFrom_encodeChar]

theorem goes_on (h : u.After read) {b : UInt8} {u' : Unfinished} (h' : u'.After (read ++ [b])) (bytes : List UInt8) :
    decodeFrom (some u) (b :: bytes) = decodeFrom (some u') bytes := by
  rw [← h.reached, List.append_cons, h'.reached]

/-- Bytes that do not go on as they began are ill-formed, and so are those behind which there is nothing. -/
theorem illFormed (h : u.After read) {bytes : List UInt8} (refused : ∀ b ∈ bytes.head?, ¬(u.low ≤ b ∧ b ≤ u.high)) :
    IllFormed read bytes := by
  have marked : ∀ b ∈ bytes.head?, ∀ more, ∃ symbols, decodeFrom none (read ++ b :: more) = none :: symbols :=
    fun b first more => ⟨_, (h.reached _).trans (decodeFrom_refused (refused b first) more)⟩
  refine ⟨h.nonempty, ?_, Or.inr h.exists_begun, fun b first => ?_⟩
  · rintro c ⟨more, whole⟩
    have read' : decodeFrom none (read ++ bytes) = some c :: decodeFrom none more := by
      rw [← whole, decodeFrom_encodeChar]
    cases bytes with
    | nil =>
      rw [h.reached] at read'
      cases read'
    | cons b bytes =>
      obtain ⟨symbols, ill⟩ := marked b rfl bytes
      rw [ill] at read'
      cases read'
  · exact not_begun fun more => by
      rw [List.append_assoc]
      exact marked b first more

end Unfinished.After

/-! ### All bytes -/

theorem illFormed_singleton {b : UInt8} (wrong : ∀ bytes, decodeFrom none (b :: bytes) = none :: decodeFrom none bytes)
    (bytes : List UInt8) : IllFormed [b] bytes := by
  refine ⟨by simp, ?_, Or.inl rfl, fun d _ => ?_⟩
  · rintro c ⟨more, whole⟩
    have read := decodeFrom_encodeChar c more
    rw [whole, List.singleton_append, wrong] at read
    cases read
  · exact not_begun fun more => ⟨_, wrong (d :: more)⟩

/-- Bytes are cut into pieces, and those read before them belong to the first piece. -/
theorem segmented_decodeFrom (bytes : List UInt8) : Segmented bytes (decodeFrom none bytes) ∧
    ∀ u read, Unfinished.After u read → Segmented (read ++ bytes) (decodeFrom (some u) bytes) := by
  induction bytes with
  | nil => exact ⟨.nil, fun u read h => .illFormed (h.illFormed (by simp)) .nil⟩
  | cons b bytes ih =>
    obtain ⟨fresh, pending⟩ := ih
    have anew : Segmented (b :: bytes) (decodeFrom none (b :: bytes)) := by
      obtain ⟨c, whole⟩ | ⟨u, h⟩ | wrong := begin_cases b
      · have piece := Segmented.char c fresh
        rw [decodeFrom_char whole]
        rwa [whole] at piece
      · have piece := pending u [b] h
        rwa [← h.reached] at piece
      · rw [wrong]
        exact .illFormed (illFormed_singleton wrong bytes) fresh
    refine ⟨anew, fun u read h => ?_⟩
    obtain ⟨c, whole⟩ | ⟨u', h'⟩ | refused := h.step_cases b
    · rw [h.completes whole, List.append_cons, ← whole]
      exact .char c fresh
    · rw [h.goes_on h', List.append_cons]
      exact pending u' _ h'
    · rw [decodeFrom_refused refused]
      refine .illFormed (h.illFormed ?_) anew
      rintro _ ⟨⟩
      exact refused

/-- Decoding gives a symbol for each piece of the bytes. -/
theorem segmented_iff {bytes : List UInt8} {symbols : List Symbol} :
    Segmented bytes symbols ↔ symbols = decode bytes := by
  refine ⟨fun h => h.unique (segmented_decodeFrom bytes).1, ?_⟩
  rintro rfl
  exact (segmented_decodeFrom bytes).1

/-! ### Text behind any bytes -/

/-- No character begins with a byte that continues one. -/
theorem encodeChar_eq_cons (c : Char) : ∃ b more, encodeChar c = b :: more ∧ (b < 0x80 ∨ 0xBF < b) := by
  have scalar : c.toNat < 0xD800 ∨ 0xDFFF < c.toNat ∧ c.toNat < 0x110000 := c.valid
  simp only [encodeChar]
  split_ifs
  all_goals
    refine ⟨_, _, rfl, ?_⟩
    simp only [UInt8.lt_iff_toNat_lt, UInt8.toNat_ofNat', UInt8.reduceToNat]
    omega

theorem Unfinished.After.decodeFrom_encode {u : Unfinished} {read : List UInt8} (h : u.After read) (cs : List Char) :
    decodeFrom (some u) (encode cs) = none :: ofText cs := by
  cases cs with
  | nil => rfl
  | cons c cs =>
    obtain ⟨b, more, first, outside⟩ := encodeChar_eq_cons c
    have refused : ¬(u.low ≤ b ∧ b ≤ u.high) := by
      rintro ⟨lower, upper⟩
      obtain below | above := outside
      · exact UInt8.not_le.mpr below (UInt8.le_trans h.bounds.1 lower)
      · exact UInt8.not_le.mpr above (UInt8.le_trans upper h.bounds.2.2)
    rw [encode, List.flatMap_cons, first, List.cons_append, decodeFrom_refused refused, ← List.cons_append, ← first]
    exact congrArg (none :: ·) (decode_encode (c :: cs))

theorem decodeFrom_append_encode (bytes : List UInt8) (cs : List Char) :
    decodeFrom none (bytes ++ encode cs) = decodeFrom none bytes ++ ofText cs ∧
    ∀ u read, Unfinished.After u read →
      decodeFrom (some u) (bytes ++ encode cs) = decodeFrom (some u) bytes ++ ofText cs := by
  induction bytes with
  | nil => exact ⟨decode_encode cs, fun u read h => h.decodeFrom_encode cs⟩
  | cons b bytes ih =>
    obtain ⟨fresh, pending⟩ := ih
    simp only [List.cons_append]
    have anew : decodeFrom none (b :: (bytes ++ encode cs)) = decodeFrom none (b :: bytes) ++ ofText cs := by
      obtain ⟨c, whole⟩ | ⟨u, h⟩ | wrong := begin_cases b
      · rw [decodeFrom_char whole, decodeFrom_char whole, fresh, List.cons_append]
      · have read := pending u [b] h
        rwa [← h.reached, ← h.reached] at read
      · rw [wrong, wrong, fresh, List.cons_append]
    refine ⟨anew, fun u read h => ?_⟩
    obtain ⟨c, whole⟩ | ⟨u', h'⟩ | refused := h.step_cases b
    · rw [h.completes whole, h.completes whole, fresh, List.cons_append]
    · rw [h.goes_on h', h.goes_on h', pending u' _ h']
    · rw [decodeFrom_refused refused, decodeFrom_refused refused, anew, List.cons_append]

/-- Text behind any bytes is read as if it stood alone, and so are the bytes in front of it. -/
theorem decode_append_encode (bytes : List UInt8) (cs : List Char) :
    decode (bytes ++ encode cs) = decode bytes ++ ofText cs :=
  (decodeFrom_append_encode bytes cs).1

/-! ### Texts -/

/-- The text of some symbols, with U+FFFD for each ill-formed piece. -/
def toText (symbols : List Symbol) : List Char := symbols.map (·.getD '\uFFFD')

@[simp] theorem toText_ofText (cs : List Char) : toText (ofText cs) = cs := by
  rw [toText, ofText, List.map_map]
  exact List.map_id _

theorem toText_append (symbols symbols' : List Symbol) :
    toText (symbols ++ symbols') = toText symbols ++ toText symbols' := List.map_append

theorem decodeLossy_eq (bytes : List UInt8) : decodeLossy bytes = toText (decode bytes) := rfl

theorem decodeLossy_encode (cs : List Char) : decodeLossy (encode cs) = cs := by
  rw [decodeLossy_eq, decode_encode, toText_ofText]

/-- Text in front of any bytes and behind them is read as it is. -/
theorem decodeLossy_between (before after : List Char) (bytes : List UInt8) :
    decodeLossy (encode before ++ bytes ++ encode after) = before ++ decodeLossy bytes ++ after := by
  rw [decodeLossy_eq, decode_append_encode, decode, decodeFrom_encode, ← decode, toText_append, toText_append,
    toText_ofText, toText_ofText, decodeLossy_eq]

end Utf8
end TextRules
