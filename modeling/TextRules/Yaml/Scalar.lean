import TextRules.Text.Basic
import TextRules.Yaml.Text

/-!
Scalars: plain words, and texts between quotes. A scalar may go on over several lines. Inside it a gap without
    the end of a line stays as it is; one with a single end of a line reads as a space; of more, the first is
    dropped and the others stay.
-/

namespace TextRules
namespace Yaml

open Text

/-- What a gap inside a scalar reads as. -/
def folded (gap : List Char) : List Char :=
  match gap.filter isBreak with
  | [] => gap
  | ['\n'] => [' ']
  | '\n' :: breaks => breaks
  | breaks => breaks

/-! ### Between quotes -/

/-- The character that a letter behind a backslash stands for. -/
def escaped? (c : Char) : Option Char :=
  match c with
  | '0' => some '\x00'
  | 'a' => some '\x07'
  | 'b' => some '\x08'
  | 't' | '\t' => some '\t'
  | 'n' => some '\n'
  | 'v' => some '\x0B'
  | 'f' => some '\x0C'
  | 'r' => some '\r'
  | 'e' => some '\x1B'
  | ' ' | '"' | '/' | '\\' => some c
  | 'N' => some '\u0085'
  | '_' => some '\u00A0'
  | 'L' => some '\u2028'
  | 'P' => some '\u2029'
  | _ => none

/-- How many hexadecimal digits follow a letter behind a backslash. -/
def codeLength? (c : Char) : Option Nat :=
  match c with
  | 'x' => some 2
  | 'u' => some 4
  | 'U' => some 8
  | _ => none

/-- The character with a code in hexadecimal digits. -/
def charOfCode? (digits : List Char) : Option Char :=
  match digits.mapM hexValue? with
  | none => none
  | some values =>
    let n := values.foldl (fun n d => 16 * n + d) 0
    if n.isValidChar then some (Char.ofNat n) else none

/-- The character that is spelled behind a backslash, and what follows. -/
def readEscape : List Located → Option (Char × List Located)
  | [] => none
  | c :: cs =>
    match codeLength? c.char with
    | none => (escaped? c.char).map (·, cs)
    | some n =>
      if cs.length < n then none else (charOfCode? (chars (cs.take n))).map (·, cs.drop n)

theorem readEscape_length {cs rest : List Located} {c : Char} (h : readEscape cs = some (c, rest)) :
    rest.length < cs.length := by
  cases cs with
  | nil => cases h
  | cons d cs =>
    simp only [readEscape] at h
    split at h
    · simp only [Option.map_eq_some_iff, Prod.mk.injEq] at h
      obtain ⟨_, _, _, rfl⟩ := h
      exact Nat.lt_succ_self _
    · split at h
      · cases h
      · simp only [Option.map_eq_some_iff, Prod.mk.injEq] at h
        obtain ⟨_, _, _, rfl⟩ := h
        simp only [List.length_drop, List.length_cons]
        omega

/-- A text from behind its opening quote to its closing quote, and what follows. The characters read before are
    given, the last of them first. A single quote that is doubled stands for itself; between double quotes a
    backslash spells a character or joins two lines. No document may begin or end inside. -/
def readQuoted (double : Bool) (before : List Char) (cs : List Located) : Option (List Char × List Located) :=
  match cs with
  | [] => none
  | c :: cs =>
    if c.char == (if double then '"' else '\'') then
      match cs with
      | d :: rest =>
        if !double && d.char == '\'' then readQuoted double ('\'' :: before) rest else some (before.reverse, cs)
      | [] => some (before.reverse, cs)
    else if double && c.char == '\\' then
      match cs with
      | [] => none
      | d :: rest =>
        if isBreak d.char then
          let gap := chars (frontGap rest)
          let after := afterGap rest
          if startsDocumentMark after then none
          else readQuoted double ((gap.filter isBreak).reverse ++ before) after
        else
          match _h : readEscape (d :: rest) with
          | none => none
          | some (e, rest) => readQuoted double (e :: before) rest
    else if isGap c.char then
      let gap := c.char :: chars (frontGap cs)
      let after := afterGap cs
      if startsDocumentMark after then none else readQuoted double ((folded gap).reverse ++ before) after
    else readQuoted double (c.char :: before) cs
termination_by cs.length
decreasing_by
  · simp only [List.length_cons]
    omega
  · have := length_afterGap_le rest
    simp only [List.length_cons]
    omega
  · have := readEscape_length _h
    simp only [List.length_cons] at this ⊢
    omega
  · have := length_afterGap_le cs
    simp only [List.length_cons]
    omega
  · simp

theorem readQuoted_length {double : Bool} {before text : List Char} {cs rest : List Located}
    (h : readQuoted double before cs = some (text, rest)) : rest.length < cs.length := by
  fun_induction readQuoted double before cs with
  | case1 => cases h
  | case2 before c _ d cs _ ih =>
    have := ih h
    simp only [List.length_cons]
    omega
  | case3 | case4 =>
    cases h
    exact Nat.lt_succ_self _
  | case5 | case6 | case8 | case10 => cases h
  | case7 before c _ _ d cs _ gap after _ ih =>
    have := ih h
    have : after.length ≤ cs.length := length_afterGap_le cs
    simp only [List.length_cons]
    omega
  | case9 before c _ _ d cs _ e after escape ih =>
    have := ih h
    have := readEscape_length escape
    simp only [List.length_cons] at this ⊢
    omega
  | case11 before c cs _ _ _ gap after _ ih =>
    have := ih h
    have : after.length ≤ cs.length := length_afterGap_le cs
    simp only [List.length_cons]
    omega
  | case12 before c cs _ _ _ ih => exact Nat.lt_succ_of_lt (ih h)

/-! ### Plain -/

/-- Whether a plain word ends before what follows: a gap, a colon before a gap, or, inside brackets, a comma or a
    bracket. -/
def endsWord (inFlow : Bool) : List Located → Bool
  | [] => true
  | c :: cs =>
    isGap c.char || (c.char == ':' && startsGap cs) || (inFlow && ",[]\x7b\x7d".toList.contains c.char)

/-- Whether a colon is out of place: inside brackets, before a character that has a meaning there. -/
def straysColon (inFlow : Bool) : List Located → Bool
  | c :: d :: _ => inFlow && c.char == ':' && ",?[]\x7b\x7d".toList.contains d.char
  | _ => false

/-- A plain word, and what follows. The characters read before are given, the last of them first. -/
def readWord (inFlow : Bool) (before : List Char) : List Located → Option (List Char × List Located)
  | [] => some (before, [])
  | c :: cs =>
    if straysColon inFlow (c :: cs) then none
    else if endsWord inFlow (c :: cs) then some (before, c :: cs)
    else readWord inFlow (c.char :: before) cs

theorem readWord_length {inFlow : Bool} {before word : List Char} {cs rest : List Located}
    (h : readWord inFlow before cs = some (word, rest)) : rest.length ≤ cs.length := by
  induction cs generalizing before with
  | nil =>
    cases h
    exact Nat.le_refl _
  | cons c cs ih =>
    simp only [readWord] at h
    split at h
    · cases h
    · split at h
      · cases h
        exact Nat.le_refl _
      · exact Nat.le_succ_of_le (ih h)

/-- Whether a gap holds a tab where a line has to be indented: behind the end of a line and before the
    margin. -/
def tabInMargin (margin : Nat) (gap : List Located) : Bool :=
  (gap.dropWhile fun c => !isBreak c.char).any fun c => c.char == '\t' && c.column < margin

/-- Whether a plain scalar ends with the gap before what follows: at the end, at a comment, at the mark of a
    document, outside brackets at a line that begins before the margin, and where no word begins. -/
def endsPlain (inFlow : Bool) (margin : Nat) (cs : List Located) : Bool :=
  startsDocumentMark cs || endsWord inFlow cs ||
    cs.head?.any fun c => c.char == '#' || (!inFlow && c.column < margin)

/-- A plain scalar, what follows it and the gap behind it, and whether that gap holds the end of a line. The
    characters read before are given, the last of them first. -/
def readPlain (inFlow : Bool) (margin : Nat) (before : List Char) (cs : List Located) :
    Option (List Char × List Located × Bool) :=
  match _h : readWord inFlow before cs with
  | none => none
  | some (before', rest) =>
    let gap := frontGap rest
    let after := afterGap rest
    if _hg : (frontGap rest).isEmpty then some (before'.reverse, rest, false)
    else if tabInMargin margin gap then none
    else if endsPlain inFlow margin after then some (before'.reverse, after, gap.any fun c => isBreak c.char)
    else readPlain inFlow margin ((folded (chars gap)).reverse ++ before') after
termination_by cs.length
decreasing_by
  have := readWord_length _h
  exact Nat.lt_of_lt_of_le (length_afterGap_lt (Bool.eq_false_iff.mpr _hg)) this

theorem readPlain_length {inFlow : Bool} {margin : Nat} {before text : List Char} {cs rest : List Located}
    {broken : Bool} (h : readPlain inFlow margin before cs = some (text, rest, broken)) :
    rest.length ≤ cs.length := by
  fun_induction readPlain inFlow margin before cs with
  | case1 => cases h
  | case2 before cs before' after word =>
    cases h
    exact readWord_length word
  | case3 => cases h
  | case4 before cs before' rest' word =>
    simp only [Option.some.injEq, Prod.mk.injEq] at h
    rw [← h.2.1]
    exact Nat.le_trans (length_afterGap_le _) (readWord_length word)
  | case5 before cs before' rest' word gap after _ _ _ ih =>
    exact Nat.le_trans (ih h) (Nat.le_trans (length_afterGap_le _) (readWord_length word))

end Yaml
end TextRules
