/-!
Texts as they are laid out: characters with the line in which they stand, and with their place in it, both in
    characters and in bytes. A line ends with a line feed, a carriage return, both in this order, or U+0085, which
    all read as one line feed, or with U+2028 or U+2029, which stay themselves.
-/

namespace TextRules
namespace Yaml

/-- A character and where it stands. Lines and columns are counted from zero. -/
structure Located where
  char : Char
  line : Nat
  column : Nat
  /-- The number of bytes before it in its line. -/
  offset : Nat

/-- A character that may stand in a text: no control character but the tab and the ends of lines. -/
def isAllowed (c : Char) : Bool :=
  let n := c.toNat
  n == 0x09 || n == 0x0A || n == 0x0D || (0x20 ≤ n && n ≤ 0x7E) || n == 0x85 || (0xA0 ≤ n && n ≤ 0xFFFD) ||
    0x10000 ≤ n

/-- The end of a line, as a located text has it. -/
def isBreak (c : Char) : Bool := c == '\n' || c == '\u2028' || c == '\u2029'

/-- A space or a tab. -/
def isBlank (c : Char) : Bool := c == ' ' || c == '\t'

/-- A character that separates words. -/
def isGap (c : Char) : Bool := isBlank c || isBreak c

/-- Characters located, the first of them at the given line, column and offset, behind those that were located
    before, the last of which comes first. -/
def locateFrom (line column offset : Nat) (before : List Located) : List Char → List Located
  | [] => before.reverse
  | '\r' :: '\n' :: cs => locateFrom (line + 1) 0 0 (⟨'\n', line, column, offset⟩ :: before) cs
  | c :: cs =>
    let c := if c == '\r' || c == '\u0085' then '\n' else c
    if isBreak c then locateFrom (line + 1) 0 0 (⟨c, line, column, offset⟩ :: before) cs
    else locateFrom line (column + 1) (offset + c.utf8Size) (⟨c, line, column, offset⟩ :: before) cs

/-- The characters of a text, located. -/
def locate (cs : List Char) : List Located := locateFrom 0 0 0 [] cs

/-- Whether a text is at its end or goes on with a gap. -/
def startsGap : List Located → Bool
  | [] => true
  | c :: _ => isGap c.char

/-- Whether a text goes on with a character. -/
def goesOn (char : Char) (cs : List Located) : Bool := cs.head?.any fun c => c.char == char

/-- Whether a text goes on with three times a mark at the start of a line, and a gap behind them. -/
def startsMark (mark : Char) : List Located → Bool
  | a :: b :: c :: cs =>
    a.column == 0 && a.char == mark && b.char == mark && c.char == mark && startsGap cs
  | _ => false

/-- Whether a text goes on with the mark that begins or the mark that ends a document. -/
def startsDocumentMark (cs : List Located) : Bool := startsMark '-' cs || startsMark '.' cs

/-- A text without the gap at its front. -/
def afterGap (cs : List Located) : List Located := cs.dropWhile fun c => isGap c.char

/-- The gap at the front of a text. -/
def frontGap (cs : List Located) : List Located := cs.takeWhile fun c => isGap c.char

/-- The characters of a located text. -/
def chars (cs : List Located) : List Char := cs.map Located.char

/-- A text without the spaces and tabs at its front. -/
def afterBlanks (cs : List Located) : List Located := cs.dropWhile fun c => isBlank c.char

/-- A text from the end of its line on. -/
def fromBreak (cs : List Located) : List Located := cs.dropWhile fun c => !isBreak c.char

/-- The text from the next line on, where only blanks and a comment are left of this one. -/
def afterLine? (cs : List Located) : Option (List Located) :=
  let rest := afterBlanks cs
  match if goesOn '#' rest then fromBreak rest else rest with
  | [] => some []
  | c :: rest => if isBreak c.char then some rest else none

/-! ### Small facts -/

theorem length_dropWhile_le (p : α → Bool) (xs : List α) : (xs.dropWhile p).length ≤ xs.length :=
  (List.dropWhile_sublist p).length_le

theorem length_afterGap_le (cs : List Located) : (afterGap cs).length ≤ cs.length :=
  length_dropWhile_le _ cs

theorem length_afterBlanks_le (cs : List Located) : (afterBlanks cs).length ≤ cs.length :=
  length_dropWhile_le _ cs

theorem length_fromBreak_le (cs : List Located) : (fromBreak cs).length ≤ cs.length :=
  length_dropWhile_le _ cs

theorem afterLine?_length {cs rest : List Located} (h : afterLine? cs = some rest) :
    rest.length ≤ cs.length := by
  have blanks := length_afterBlanks_le cs
  have comment := length_fromBreak_le (afterBlanks cs)
  unfold afterLine? at h
  dsimp only at h
  split at h
  · cases h
    exact Nat.zero_le _
  · rename_i c after line
    have : after.length < (afterBlanks cs).length := by
      have := congrArg List.length line
      split at this <;> simp only [List.length_cons] at this <;> omega
    split at h
    · cases h
      omega
    · cases h

theorem length_afterGap_lt {cs : List Located} (h : (frontGap cs).isEmpty = false) :
    (afterGap cs).length < cs.length := by
  have lengths := congrArg List.length (List.takeWhile_append_dropWhile (p := fun c : Located => isGap c.char) (l := cs))
  rw [List.length_append] at lengths
  have : 0 < (frontGap cs).length := List.length_pos_iff.mpr (by simpa using h)
  unfold frontGap at this
  unfold afterGap
  omega

end Yaml
end TextRules
