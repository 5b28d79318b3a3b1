import TextRules.Text.Basic
import TextRules.Yaml.Text

/-!
Block scalars: texts that indentation marks off. Behind the mark that begins one may stand how the end of the text
    is kept and how far the text is indented; a text that is not told tells it by its first line, or by an empty
    line before it that is indented farther. Each line stays as it is, or, in a folded text, is joined to the next
    one where neither begins with a blank.
-/

namespace TextRules
namespace Yaml

open Text

/-- What stays of the ends of lines at the end of a block scalar: none, the first, or all. -/
inductive Chomping where
  | strip
  | clip
  | keep

/-- What a mark says about the end of a block scalar. -/
def chomping? (c : Char) : Option Chomping :=
  if c == '-' then some .strip else if c == '+' then some .keep else none

/-- The digit for the indentation, zero where none is written, and what follows. -/
def readIncrement : List Located → Option (Nat × List Located)
  | [] => some (0, [])
  | c :: cs =>
    if !isDigit c.char then some (0, c :: cs) else if c.char == '0' then none else some (digitValue c.char, cs)

/-- What is written of the end of the text, and what follows. -/
def readChomping : List Located → Option Chomping × List Located
  | [] => (none, [])
  | c :: cs =>
    match chomping? c.char with
    | some chomping => (some chomping, cs)
    | none => (none, c :: cs)

/-- What stands behind the mark of a block scalar, in either order: how the end is kept, and by how much the text is
    indented, zero if that is not told; and what follows. -/
def readHeader (cs : List Located) : Option (Chomping × Nat × List Located) :=
  match readChomping cs with
  | (some chomping, rest) => (readIncrement rest).map fun read => (chomping, read.1, read.2)
  | (none, rest) => (readIncrement rest).map fun read =>
    if read.1 == 0 then (.clip, 0, read.2)
    else ((readChomping read.2).1.getD .clip, read.1, (readChomping read.2).2)

/-- The ends of the empty lines at the front of a text, the last of those read before first; the greatest column that
    spaces lead to; and what follows the spaces of the line that is not empty. No tab may stand where the text has to
    be indented, which is anywhere as long as the indentation is not known and given as zero. -/
def readEmptyLines (indent deepest : Nat) (before : List Char) :
    List Located → Option (List Char × Nat × List Located)
  | [] => some (before.reverse, deepest, [])
  | c :: cs =>
    let inMargin := indent == 0 || c.column < indent
    if inMargin && c.char == ' ' then readEmptyLines indent (max deepest (c.column + 1)) before cs
    else if inMargin && c.char == '\t' then none
    else if isBreak c.char then readEmptyLines indent deepest (c.char :: before) cs
    else some (before.reverse, deepest, c :: cs)

theorem readEmptyLines_length {indent deepest deepest' : Nat} {before ends : List Char} {cs rest : List Located}
    (h : readEmptyLines indent deepest before cs = some (ends, deepest', rest)) : rest.length ≤ cs.length := by
  induction cs generalizing deepest before with
  | nil =>
    cases h
    exact Nat.le_refl _
  | cons c cs ih =>
    simp only [readEmptyLines] at h
    repeat' split at h
    · exact Nat.le_succ_of_le (ih h)
    · cases h
    · exact Nat.le_succ_of_le (ih h)
    · cases h
      exact Nat.le_refl _

/-- A text read so far: its lines; the end of the last one and those of the empty ones behind it; and whether the
    last line begins with a blank. -/
structure Lines where
  text : List Char := []
  lineEnd : List Char := []
  emptyLines : List Char := []
  startsBlank : Bool := false

namespace Lines

/-- What a line that begins with the given character is joined by to the lines before it. -/
def joint (lines : Lines) (literal : Bool) (c : Char) : List Char :=
  if !literal && lines.lineEnd == ['\n'] && !lines.startsBlank && !isBlank c then
    if lines.emptyLines.isEmpty then [' '] else lines.emptyLines
  else lines.lineEnd ++ lines.emptyLines

/-- The text with its end kept as told. -/
def chomp (lines : Lines) : Chomping → List Char
  | .strip => lines.text
  | .clip => lines.text ++ lines.lineEnd
  | .keep => lines.text ++ lines.lineEnd ++ lines.emptyLines

end Lines

/-- The lines of a block scalar from the beginning of one on, behind those read before, and what follows. Only a line
    that begins in the column of the text is one of them. -/
def readLines (literal : Bool) (indent : Nat) (lines : Lines) (cs : List Located) :
    Option (Lines × List Located) :=
  match cs with
  | [] => some (lines, [])
  | c :: rest =>
    if c.column == indent then
      let line := (c :: rest).takeWhile fun c => !isBreak c.char
      let atEnd := fromBreak (c :: rest)
      match _h : readEmptyLines indent 0 [] atEnd.tail with
      | none => none
      | some (emptyLines, _, after) =>
        readLines literal indent
          { text := lines.text ++ lines.joint literal c.char ++ chars line
            lineEnd := chars (atEnd.take 1)
            emptyLines := emptyLines
            startsBlank := isBlank c.char } after
    else some (lines, c :: rest)
termination_by cs.length
decreasing_by
  have := readEmptyLines_length _h
  have : atEnd.length ≤ (c :: rest).length := length_fromBreak_le (c :: rest)
  simp only [List.length_tail, List.length_cons] at *
  omega

theorem readLines_length {literal : Bool} {indent : Nat} {lines lines' : Lines} {cs rest : List Located}
    (h : readLines literal indent lines cs = some (lines', rest)) : rest.length ≤ cs.length := by
  fun_induction readLines literal indent lines cs with
  | case1 =>
    cases h
    exact Nat.le_refl _
  | case2 => cases h
  | case3 lines c cs blank line atEnd emptyLines _ after ended ih =>
    have := ih h
    have := readEmptyLines_length ended
    have : atEnd.length ≤ (c :: cs).length := length_fromBreak_le (c :: cs)
    simp only [List.length_tail] at *
    omega
  | case4 =>
    cases h
    exact Nat.le_refl _

/-- The block scalar behind its mark, and what follows. The margin is the least column that is farther in than the
    collection around; it is where the text begins at least, and where a told indentation is counted from. -/
def readBlock (literal : Bool) (margin : Nat) (cs : List Located) : Option (List Char × List Located) := do
  let (chomping, increment, rest) ← readHeader cs
  let told := if increment == 0 then 0 else margin - 1 + increment
  let (emptyLines, deepest, rest) ← readEmptyLines told 0 [] (← afterLine? rest)
  let indent := if told == 0 then max deepest (max margin 1) else told
  let (lines, rest) ← readLines literal indent { emptyLines } rest
  return (lines.chomp chomping, rest)

/-! ### What is left of the text -/

theorem readIncrement_length {cs rest : List Located} {n : Nat} (h : readIncrement cs = some (n, rest)) :
    rest.length ≤ cs.length := by
  cases cs with
  | nil =>
    cases h
    exact Nat.le_refl _
  | cons c cs =>
    simp only [readIncrement] at h
    repeat' split at h
    all_goals cases h
    · exact Nat.le_refl _
    · exact Nat.le_succ _

theorem readChomping_length (cs : List Located) : (readChomping cs).2.length ≤ cs.length := by
  cases cs with
  | nil => exact Nat.le_refl _
  | cons c cs =>
    simp only [readChomping]
    split
    · exact Nat.le_succ _
    · exact Nat.le_refl _

theorem readHeader_length {cs rest : List Located} {chomping : Chomping} {n : Nat}
    (h : readHeader cs = some (chomping, n, rest)) : rest.length ≤ cs.length := by
  have first := readChomping_length cs
  unfold readHeader at h
  split at h
  · rename_i marked
    rw [marked] at first
    obtain ⟨read, increment, parts⟩ := Option.map_eq_some_iff.mp h
    cases parts
    exact Nat.le_trans (readIncrement_length increment) first
  · rename_i unmarked
    rw [unmarked] at first
    dsimp only at first
    obtain ⟨read, increment, parts⟩ := Option.map_eq_some_iff.mp h
    have second := readChomping_length read.2
    have := readIncrement_length increment
    split at parts <;> cases parts <;> omega

theorem readBlock_length {literal : Bool} {margin : Nat} {cs rest : List Located} {text : List Char}
    (h : readBlock literal margin cs = some (text, rest)) : rest.length ≤ cs.length := by
  simp only [readBlock, Option.bind_eq_bind, Option.bind_eq_some_iff, Prod.exists, Option.pure_def,
    Option.some.injEq, Prod.mk.injEq] at h
  obtain ⟨_, _, _, header, _, line, _, _, _, empty, _, _, lines, _, rfl⟩ := h
  have := readHeader_length header
  have := afterLine?_length line
  have := readEmptyLines_length empty
  have := readLines_length lines
  omega

end Yaml
end TextRules
