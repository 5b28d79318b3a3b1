import TextRules.Yaml.Block
import TextRules.Yaml.Property
import TextRules.Yaml.Scalar

/-!
Lexemes: the marks, scalars, properties and directives of a text, one after the other. Between them stand gaps and
    comments. A lexeme is read as far as it goes in the text that is there.
-/

namespace TextRules
namespace Yaml

/-- How a scalar is written. -/
inductive Style where
  | plain
  | quoted
  | literal
  | folded
  deriving DecidableEq

/-- A mark, a scalar, a property of a node, or a directive. -/
inductive Lexeme where
  | documentStart
  | documentEnd
  | openSequence
  | openMapping
  | closeSequence
  | closeMapping
  | comma
  | dash
  | question
  | colon
  | directive (directive : Directive)
  | anchor (name : List Char)
  | reference (name : List Char)
  | tag (handle : List Char) (suffix : Tag)
  /-- A scalar, and whether the next lexeme stands on a later line for what is known from reading this one. -/
  | scalar (style : Style) (text : List Char) (broken : Bool)

/-- A text without the gaps and comments at its front, and whether a key may begin there. Outside brackets a key
    may begin on a new line, and where one may begin a tab is no part of a gap. A byte order mark at the start
    of a line is one. -/
def skipGaps (inFlow : Bool) (keyAllowed comment : Bool) : List Located → Bool × List Located
  | [] => (keyAllowed, [])
  | c :: cs =>
    if isBreak c.char then skipGaps inFlow (keyAllowed || !inFlow) false cs
    else if comment then skipGaps inFlow keyAllowed true cs
    else if c.char == '#' then skipGaps inFlow keyAllowed true cs
    else if c.char == ' ' || (c.char == '\t' && (inFlow || !keyAllowed)) ||
        (c.char == '\uFEFF' && c.column == 0) then
      skipGaps inFlow keyAllowed false cs
    else (keyAllowed, c :: cs)

theorem skipGaps_length (inFlow keyAllowed comment : Bool) (cs : List Located) :
    (skipGaps inFlow keyAllowed comment cs).2.length ≤ cs.length := by
  induction cs generalizing keyAllowed comment with
  | nil => simp [skipGaps]
  | cons c cs ih =>
    simp only [skipGaps]
    repeat' split
    all_goals first
      | exact Nat.le_succ_of_le (ih _ _)
      | exact Nat.le_refl _

theorem skipGaps_rest_length {inFlow keyAllowed comment later : Bool} {c : Located} {cs rest : List Located}
    (h : skipGaps inFlow keyAllowed comment cs = (later, c :: rest)) : rest.length < cs.length := by
  have := skipGaps_length inFlow keyAllowed comment cs
  rw [h] at this
  exact this

/-- The plain scalar that begins with a character, and what follows. -/
def readPlainLexeme (inFlow : Bool) (margin : Nat) (c : Char) (cs : List Located) :
    Option (Lexeme × List Located) :=
  match readPlain inFlow margin [c] cs with
  | some (text, rest, broken) => some (.scalar .plain text broken, rest)
  | none => none

/-- The quoted scalar of which the opening quote was read, and what follows. -/
def readQuotedLexeme (double : Bool) (cs : List Located) : Option (Lexeme × List Located) :=
  match readQuoted double [] cs with
  | some (text, rest) => some (.scalar .quoted text false, rest)
  | none => none

/-- The block scalar of which the mark was read, and what follows; brackets hold none. -/
def readBlockLexeme (inFlow literal : Bool) (margin : Nat) (cs : List Located) : Option (Lexeme × List Located) :=
  if inFlow then none
  else (readBlock literal margin cs).map fun read =>
    (.scalar (if literal then .literal else .folded) read.1 true, read.2)

/-- The lexeme that begins with a character, and what follows. -/
def readLexeme (inFlow : Bool) (margin : Nat) (c : Located) (cs : List Located) :
    Option (Lexeme × List Located) :=
  let markOrPlain (mark : Lexeme) (isMark : Bool) :=
    if isMark then some (mark, cs) else readPlainLexeme inFlow margin c.char cs
  if c.column = 0 ∧ c.char = '%' then (readDirective cs).map fun read => (.directive read.1, read.2)
  else if startsMark '-' (c :: cs) then some (.documentStart, cs.drop 2)
  else if startsMark '.' (c :: cs) then some (.documentEnd, cs.drop 2)
  else
    match c.char with
    | '[' => some (.openSequence, cs)
    | ']' => some (.closeSequence, cs)
    | '\x7b' => some (.openMapping, cs)
    | '\x7d' => some (.closeMapping, cs)
    | ',' => some (.comma, cs)
    | '-' => markOrPlain .dash (startsGap cs)
    | '?' => markOrPlain .question (inFlow || startsGap cs)
    | ':' => markOrPlain .colon (inFlow || startsGap cs)
    | '\'' => readQuotedLexeme false cs
    | '"' => readQuotedLexeme true cs
    | '&' => (readAnchor cs).map fun read => (.anchor read.1, read.2)
    | '*' => (readAnchor cs).map fun read => (.reference read.1, read.2)
    | '!' => (readTag inFlow cs).map fun read => (.tag read.1 read.2.1, read.2.2)
    | '|' => readBlockLexeme inFlow true margin cs
    | '>' => readBlockLexeme inFlow false margin cs
    | char =>
      if isGap char || "#%@`".toList.contains char then none
      else readPlainLexeme inFlow margin char cs

/-! ### Every lexeme takes a character -/

theorem readPlainLexeme_length {inFlow : Bool} {margin : Nat} {c : Char} {cs rest : List Located} {x : Lexeme}
    (h : readPlainLexeme inFlow margin c cs = some (x, rest)) : rest.length ≤ cs.length := by
  unfold readPlainLexeme at h
  split at h
  · rename_i plain
    cases h
    exact readPlain_length plain
  · cases h

theorem readQuotedLexeme_length {double : Bool} {cs rest : List Located} {x : Lexeme}
    (h : readQuotedLexeme double cs = some (x, rest)) : rest.length ≤ cs.length := by
  unfold readQuotedLexeme at h
  split at h
  · rename_i quoted
    cases h
    exact Nat.le_of_lt (readQuoted_length quoted)
  · cases h

theorem readBlockLexeme_length {inFlow literal : Bool} {margin : Nat} {cs rest : List Located} {x : Lexeme}
    (h : readBlockLexeme inFlow literal margin cs = some (x, rest)) : rest.length ≤ cs.length := by
  unfold readBlockLexeme at h
  split at h
  · cases h
  · obtain ⟨read, block, parts⟩ := Option.map_eq_some_iff.mp h
    cases parts
    exact readBlock_length block

theorem readLexeme_length {inFlow : Bool} {margin : Nat} {c : Located} {cs rest : List Located} {x : Lexeme}
    (h : readLexeme inFlow margin c cs = some (x, rest)) : rest.length ≤ cs.length := by
  unfold readLexeme at h
  dsimp only at h
  repeat' split at h
  all_goals first
    | exact readPlainLexeme_length h
    | exact readQuotedLexeme_length h
    | exact readBlockLexeme_length h
    | (obtain ⟨read, property, parts⟩ := Option.map_eq_some_iff.mp h
       cases parts
       first
         | exact readDirective_length property
         | exact readAnchor_length property
         | exact readTag_length property)
    | cases h
  all_goals simp

end Yaml
end TextRules
