import TextRules.Gate
import TextRules.Proofs.Encoding
import TextRules.Proofs.Ends

/-!
Who passes the admin gate. A header value presents a token if it is a bearer scheme, a space and the token with blanks
    around it, all of visible characters (`Gate.Presents`); the gate finds exactly the tokens that are presented and not
    empty (`Gate.bearerToken?_eq_some_iff`). So a token that has blanks at its ends, or a character that is not
    visible, can be configured but never presented.
-/

namespace TextRules

open Text

/-! ### Written texts -/

namespace Utf8

theorem encode_injective {cs ds : List Char} (same : encode cs = encode ds) : cs = ds := by
  have read : ofText cs = ofText ds := by rw [← decode_encode, same, decode_encode]
  exact (List.map_inj_right fun _ _ => Option.some.inj).mp read

end Utf8

namespace Gate

/-- The number of a visible ASCII character, of the space or of the tab. -/
def IsVisible (n : Nat) : Prop := 0x20 ≤ n ∧ n ≤ 0x7E ∨ n = 0x09

theorem IsVisible.lt {n : Nat} (visible : IsVisible n) : n < 0x80 := by
  rcases visible with h | h <;> omega

theorem isVisible_iff {b : UInt8} :
    ((0x20 ≤ b && b < 0x7F) || b == 0x09) = true ↔ IsVisible b.toNat := by
  simp only [IsVisible, Bool.or_eq_true, Bool.and_eq_true, decide_eq_true_eq, beq_iff_eq, UInt8.le_iff_toNat_le,
    UInt8.lt_iff_toNat_lt, ← UInt8.toNat_inj]
  simp
  omega

theorem encodeChar_of_visible {c : Char} (visible : IsVisible c.toNat) :
    Utf8.encodeChar c = [UInt8.ofNat c.toNat] := if_pos visible.lt

theorem toNat_ofNat_of_visible {n : Nat} (visible : IsVisible n) : (Char.ofNat n).toNat = n := by
  have small := visible.lt
  exact Utf8.toNat_ofNat (Or.inl (by omega))

/-- Visible bytes, read as characters of the same numbers, are written as the same bytes. -/
theorem encode_ofBytes {value : List UInt8} (visible : ∀ b ∈ value, IsVisible b.toNat) :
    Utf8.encode (value.map fun b => Char.ofNat b.toNat) = value := by
  induction value with
  | nil => rfl
  | cons b value ih =>
    have first := visible b List.mem_cons_self
    have own := toNat_ofNat_of_visible first
    have byte : Utf8.encodeChar (Char.ofNat b.toNat) = [b] := by
      rw [encodeChar_of_visible (own.symm ▸ first), own, UInt8.ofNat_toNat]
    have rest := ih fun c member => visible c (List.mem_cons_of_mem b member)
    rw [List.map_cons, Utf8.encode, List.flatMap_cons, byte, ← Utf8.encode, rest]
    rfl

/-- A text is written in visible bytes exactly if its characters are visible. -/
theorem visible_encode_iff {cs : List Char} :
    (∀ b ∈ Utf8.encode cs, IsVisible b.toNat) ↔ ∀ c ∈ cs, IsVisible c.toNat := by
  constructor
  · intro visible c member
    have same : (Utf8.encode cs).map (fun b => Char.ofNat b.toNat) = cs :=
      Utf8.encode_injective (encode_ofBytes visible)
    rw [← same] at member
    obtain ⟨b, written, rfl⟩ := List.mem_map.mp member
    rw [toNat_ofNat_of_visible (visible b written)]
    exact visible b written
  · intro visible b member
    obtain ⟨c, inside, written⟩ := List.mem_flatMap.mp member
    have shown := visible c inside
    rw [encodeChar_of_visible shown, List.mem_singleton] at written
    have small := shown.lt
    rw [written, UInt8.toNat_ofNat', Nat.mod_eq_of_lt (by omega)]
    exact shown

theorem visibleText?_eq_some_iff {value : List UInt8} {text : List Char} :
    visibleText? value = some text ↔ (∀ b ∈ value, IsVisible b.toNat) ∧ value = Utf8.encode text := by
  have all : (value.all fun b => (0x20 ≤ b && b < 0x7F) || b == 0x09) = true ↔ ∀ b ∈ value, IsVisible b.toNat := by
    simp only [List.all_eq_true, isVisible_iff]
  unfold visibleText?
  split
  case isTrue shown =>
    have visible := all.mp shown
    have written := encode_ofBytes visible
    constructor
    · rintro ⟨⟩
      exact ⟨visible, written.symm⟩
    · rintro ⟨-, same⟩
      exact congrArg some (Utf8.encode_injective (written.trans same))
  case isFalse hidden =>
    constructor
    · intro h
      cases h
    · rintro ⟨visible, -⟩
      exact absurd (all.mpr visible) hidden

/-! ### Bearer tokens -/

/-- A header value presents a token: it is of visible characters, and its first space stands between the scheme, which
    is bearer in any case, and the token, which may have blanks around it. -/
structure Presents (value : List UInt8) (token : String) : Prop where
  visible : ∀ b ∈ value, IsVisible b.toNat
  form : ∃ scheme rest : List Char, value = Utf8.encode (scheme ++ ' ' :: rest) ∧ ' ' ∉ scheme ∧
    scheme.map Char.toLower = "bearer".toList ∧ Utf8.encode (trimChars rest) = Utf8.encode token.toList

theorem cut_at_space {text scheme : List Char} {c : Char} {rest : List Char} :
    (text.takeWhile (· ≠ ' ') = scheme ∧ text.dropWhile (· ≠ ' ') = c :: rest) ↔
      text = scheme ++ c :: rest ∧ ' ' ∉ scheme ∧ c = ' ' := by
  constructor
  · rintro ⟨rfl, tail⟩
    refine ⟨?_, fun member => ?_, ?_⟩
    · rw [← tail, List.takeWhile_append_dropWhile]
    · simpa using List.mem_takeWhile_imp member
    · simpa using head?_dropWhile (· ≠ ' ') text c (by rw [tail]; rfl)
  · rintro ⟨rfl, free, rfl⟩
    have passed : ∀ d ∈ scheme, decide (d ≠ ' ') = true := by
      intro d member
      refine decide_eq_true ?_
      rintro rfl
      exact free member
    rw [List.takeWhile_append_of_pos passed, List.dropWhile_append_of_pos passed]
    simp

theorem bearerToken?_eq_some_iff {value : List UInt8} {presented : List Char} :
    bearerToken? value = some presented ↔ presented ≠ [] ∧ Presents value (String.ofList presented) := by
  constructor
  · intro found
    unfold bearerToken? at found
    split at found
    · cases found
    case h_2 text shown =>
      obtain ⟨visible, same⟩ := visibleText?_eq_some_iff.mp shown
      split at found
      · cases found
      case h_2 c rest tail =>
        obtain ⟨cut, free, rfl⟩ := cut_at_space.mp ⟨rfl, tail⟩
        dsimp only at found
        split at found
        case isTrue bearer =>
          obtain rfl := Option.some.inj found
          refine ⟨bearer.2, visible, _, rest, same.trans (congrArg _ cut), free, bearer.1, ?_⟩
          rw [String.toList_ofList]
        case isFalse other => cases found
  · rintro ⟨nonempty, visible, scheme, rest, same, free, named, trimmed⟩
    have shown := visibleText?_eq_some_iff.mpr ⟨visible, same⟩
    obtain ⟨front, tail⟩ := cut_at_space.mpr ⟨rfl, free, rfl⟩
    rw [String.toList_ofList] at trimmed
    obtain rfl := Utf8.encode_injective trimmed
    simp only [bearerToken?, shown]
    rw [tail, front]
    exact if_pos ⟨named, nonempty⟩

/-! ### The gate -/

section Authorize
variable {t : String} {values : List (List UInt8)}

theorem authorize_of_empty {token : Option String} (unset : token = none ∨ token = some "") :
    (ofToken token).authorize values = .error .notConfigured := by
  rcases unset with rfl | rfl <;> rfl

theorem authorize_of_token (nonempty : t ≠ "") : (ofToken (some t)).authorize values =
    match values.head?.bind bearerToken? with
    | none => .error .missingToken
    | some presented => if presented = t.toList then .ok () else .error .invalidToken := by
  have kept : (ofToken (some t)).token = some t := by simp [ofToken, Option.filter, nonempty]
  cases found : values.head?.bind bearerToken? <;> simp only [authorize, kept, found]

theorem presented_iff (values : List (List UInt8)) (presented : String) :
    values.head?.bind bearerToken? = some presented.toList ↔
      presented ≠ "" ∧ ∃ value ∈ values.head?, Presents value presented := by
  rw [Option.bind_eq_some_iff]
  constructor
  · rintro ⟨value, first, found⟩
    obtain ⟨nonempty, presents⟩ := bearerToken?_eq_some_iff.mp found
    rw [String.ofList_toList] at presents
    exact ⟨fun empty => nonempty (by rw [empty]; rfl), value, first, presents⟩
  · rintro ⟨nonempty, value, first, presents⟩
    refine ⟨value, first, bearerToken?_eq_some_iff.mpr ⟨?_, ?_⟩⟩
    · rwa [ne_eq, String.toList_eq_nil_iff]
    · rwa [String.ofList_toList]

theorem authorize_ne_notConfigured (nonempty : t ≠ "") :
    (ofToken (some t)).authorize values ≠ .error .notConfigured := by
  rw [authorize_of_token nonempty]
  split
  · rintro ⟨⟩
  · split <;> rintro ⟨⟩

theorem authorize_eq_ok_iff (nonempty : t ≠ "") :
    (ofToken (some t)).authorize values = .ok () ↔ ∃ value ∈ values.head?, Presents value t := by
  have own := presented_iff values t
  rw [authorize_of_token nonempty]
  constructor
  · intro passed
    split at passed
    · cases passed
    case h_2 presented found =>
      split at passed
      case isTrue same => exact (own.mp (same ▸ found)).2
      case isFalse other => cases passed
  · intro presents
    rw [own.mpr ⟨nonempty, presents⟩]
    exact if_pos rfl

theorem authorize_eq_missingToken_iff (nonempty : t ≠ "") :
    (ofToken (some t)).authorize values = .error .missingToken ↔
      ¬∃ presented, presented ≠ "" ∧ ∃ value ∈ values.head?, Presents value presented := by
  rw [authorize_of_token nonempty]
  constructor
  · rintro missing ⟨presented, presents⟩
    rw [(presented_iff values presented).mpr presents] at missing
    dsimp only at missing
    split at missing <;> cases missing
  · intro nothing
    split
    · rfl
    case h_2 presented found =>
      rw [← String.toList_ofList (l := presented)] at found
      exact absurd ⟨_, (presented_iff values _).mp found⟩ nothing

theorem authorize_eq_invalidToken_iff (nonempty : t ≠ "") :
    (ofToken (some t)).authorize values = .error .invalidToken ↔
      ∃ presented, presented ≠ "" ∧ presented ≠ t ∧ ∃ value ∈ values.head?, Presents value presented := by
  rw [authorize_of_token nonempty]
  constructor
  · intro invalid
    split at invalid
    · cases invalid
    case h_2 presented found =>
      split at invalid
      · cases invalid
      case isFalse other =>
        rw [← String.toList_ofList (l := presented)] at found
        obtain ⟨shown, presents⟩ := (presented_iff values _).mp found
        refine ⟨_, shown, ?_, presents⟩
        rintro rfl
        exact other String.toList_ofList.symm
  · rintro ⟨presented, shown, other, presents⟩
    rw [(presented_iff values presented).mpr ⟨shown, presents⟩]
    exact if_neg fun same => other (String.toList_inj.mp same)

end Authorize

theorem exists_presents_iff {t : String} :
    (∃ value, Presents value t) ↔ (∀ c ∈ t.toList, IsVisible c.toNat) ∧ trim t = t := by
  constructor
  · rintro ⟨value, visible, scheme, rest, rfl, -, -, trimmed⟩
    have inside := visible_encode_iff.mp visible
    have own : trimChars rest = t.toList := Utf8.encode_injective trimmed
    refine ⟨fun c member => ?_, ?_⟩
    · rw [← own] at member
      exact inside c (List.mem_append_right scheme (List.mem_cons_of_mem ' ' (mem_of_mem_stripEnds member)))
    · rw [← String.toList_inj, toList_trim, ← own]
      exact stripEnds_of_bare (bare_stripEnds isBlank rest)
  · rintro ⟨visible, trimmed⟩
    refine ⟨Utf8.encode ("bearer".toList ++ ' ' :: t.toList), visible_encode_iff.mpr fun c member => ?_,
      "bearer".toList, t.toList, rfl, by decide, by decide, ?_⟩
    · rcases List.mem_append.mp member with member | member
      · have letters : "bearer".toList.all (fun c => decide (0x20 ≤ c.toNat ∧ c.toNat ≤ 0x7E)) = true := by decide
        exact .inl (of_decide_eq_true (List.all_eq_true.mp letters c member))
      · rcases List.mem_cons.mp member with rfl | member
        · exact .inl ⟨by decide, by decide⟩
        · exact visible c member
    · rw [← toList_trim, trimmed]

end Gate

/-- A request passes exactly if a token that is not empty is configured and the first value presents it. It is told that
    none is configured exactly if that is so, whatever it presents; that its token is invalid exactly if the first
    value presents another one that is not empty; and otherwise that a token is missing. So some value passes exactly if
    the token is not empty, visible and without blanks at its ends. -/
theorem gate_decides (token : Option String) (values : List (List UInt8)) :
    let decision := (Gate.ofToken token).authorize values
    (decision = .ok () ↔ ∃ t, token = some t ∧ t ≠ "" ∧ ∃ value ∈ values.head?, Gate.Presents value t) ∧
    (decision = .error .notConfigured ↔ token = none ∨ token = some "") ∧
    (decision = .error .invalidToken ↔ ∃ t, token = some t ∧ t ≠ "" ∧
      ∃ presented, presented ≠ "" ∧ presented ≠ t ∧ ∃ value ∈ values.head?, Gate.Presents value presented) ∧
    (decision = .error .missingToken ↔ ∃ t, token = some t ∧ t ≠ "" ∧
      ¬∃ presented, presented ≠ "" ∧ ∃ value ∈ values.head?, Gate.Presents value presented) ∧
    ∀ more, (∃ value, (Gate.ofToken token).authorize (value :: more) = .ok ()) ↔
      ∃ t, token = some t ∧ t ≠ "" ∧ (∀ c ∈ t.toList, Gate.IsVisible c.toNat) ∧ trim t = t := by
  intro decision
  by_cases unset : token = none ∨ token = some ""
  · have absent : ∀ P : String → Prop, ¬∃ t, token = some t ∧ t ≠ "" ∧ P t := by
      rintro P ⟨t, rfl, nonempty, -⟩
      rcases unset with h | h <;> simp_all
    have closed : decision = .error .notConfigured := Gate.authorize_of_empty unset
    simp only [closed, Gate.authorize_of_empty unset, absent, unset]
    simp
  · obtain ⟨t, rfl, nonempty⟩ : ∃ t, token = some t ∧ t ≠ "" := by
      cases token with
      | none => exact absurd (.inl rfl) unset
      | some t => exact ⟨t, rfl, fun empty => unset (.inr (by rw [empty]))⟩
    have given : ∀ P : String → Prop, (∃ t', some t = some t' ∧ t' ≠ "" ∧ P t') ↔ P t := by
      intro P
      constructor
      · rintro ⟨t', same, -, h⟩
        exact Option.some.inj same ▸ h
      · intro h
        exact ⟨t, rfl, nonempty, h⟩
    simp only [given]
    refine ⟨Gate.authorize_eq_ok_iff nonempty, ?_, Gate.authorize_eq_invalidToken_iff nonempty,
      Gate.authorize_eq_missingToken_iff nonempty, fun more => ?_⟩
    · exact iff_of_false (Gate.authorize_ne_notConfigured nonempty) unset
    · rw [← Gate.exists_presents_iff]
      refine exists_congr fun value => ?_
      rw [Gate.authorize_eq_ok_iff nonempty]
      simp

end TextRules
