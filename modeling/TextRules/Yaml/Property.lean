import TextRules.Text.Basic
import TextRules.Yaml.Text

/-!
What a node can have besides its content: an anchor, by which an alias names it, and a tag. A tag is written in
    full, or as a handle and a suffix; a directive before the document says what its handles stand for, and
    another one in which version the document is written.
-/

namespace TextRules
namespace Yaml

open Text

/-- A tag, as bytes: it may spell any of them. -/
abbrev Tag := List UInt8

/-- The bytes of a text in ASCII. -/
def ascii (s : String) : List UInt8 := s.toList.map fun c => UInt8.ofNat c.toNat

/-- A character of which names consist: an ASCII letter, a digit, an underscore or a hyphen. -/
def isNameChar (c : Char) : Bool :=
  c.isAlphanum || c == '_' || c == '-'

/-- The name at the front of a text, and what follows. -/
def readName (cs : List Located) : List Char × List Located :=
  (chars (cs.takeWhile fun c => isNameChar c.char), cs.dropWhile fun c => isNameChar c.char)

/-- The name of an anchor or alias, and what follows. -/
def readAnchor (cs : List Located) : Option (List Char × List Located) :=
  let (name, rest) := readName cs
  let ends := startsGap rest || rest.head?.any fun c => "?:,]\x7d%@`".toList.contains c.char
  if name.isEmpty || !ends then none else some (name, rest)

/-! ### Tags -/

/-- A character that stands for itself in a tag; in one that is written in full there are some more. -/
def isTagChar (inFull : Bool) (c : Char) : Bool :=
  isNameChar c || ";/?:@&=+$.!~*'()".toList.contains c || (inFull && ",[]".toList.contains c)

/-- How many bytes have to follow behind one, where so many were due with it: a byte that is not due begins a
    character. -/
def bytesDue? (due : Nat) (byte : Nat) : Option Nat :=
  match due with
  | due + 1 => if 0x80 ≤ byte && byte < 0xC0 then some due else none
  | 0 =>
    if byte < 0x80 then some 0
    else if byte < 0xC0 then none
    else if byte < 0xE0 then some 1
    else if byte < 0xF0 then some 2
    else if byte < 0xF8 then some 3
    else none

/-- The byte that two hexadecimal digits spell. -/
def hexByte? (high low : Char) : Option Nat := do
  return 16 * (← hexValue? high) + (← hexValue? low)

/-- The bytes of a tag, and what follows. A percent sign and two hexadecimal digits spell a byte; the bytes of a
    character that are still due have to be spelled, too. -/
def readTagBytes (inFull : Bool) (due : Nat) : List Located → Option (List UInt8 × List Located)
  | [] => if due = 0 then some ([], []) else none
  | c :: cs =>
    if c.char == '%' then
      match cs with
      | high :: low :: rest =>
        match hexByte? high.char low.char with
        | some byte =>
          match bytesDue? due byte with
          | some due => (readTagBytes inFull due rest).map fun read => (UInt8.ofNat byte :: read.1, read.2)
          | none => none
        | none => none
      | _ => none
    else if due ≠ 0 then none
    else if isTagChar inFull c.char then
      (readTagBytes inFull 0 cs).map fun read => (UInt8.ofNat c.char.toNat :: read.1, read.2)
    else some ([], c :: cs)

/-- The part of a tag at the front of a text, and what follows. It counts up to a zero byte. -/
def readTagPart (inFull : Bool) (cs : List Located) : Option (Tag × List Located) :=
  (readTagBytes inFull 0 cs).map fun read => (read.1.takeWhile (· != 0), read.2)

/-- A part of a tag that may not be left out, and what follows. -/
def readTagText (inFull : Bool) (cs : List Located) : Option (Tag × List Located) :=
  (readTagPart inFull cs).filter fun read => read.2.length != cs.length

/-- The handle and the suffix of a tag behind its exclamation mark, and what follows. A tag in full has no handle;
    neither has the exclamation mark alone, which is its own suffix. -/
def readHandleAndSuffix (cs : List Located) : Option (List Char × Tag × List Located) :=
  let (name, rest) := readName cs
  if goesOn '<' cs then
    match readTagText true cs.tail with
    | some (tag, rest) => if goesOn '>' rest then some ([], tag, rest.tail) else none
    | none => none
  else if goesOn '!' rest then
    (readTagText false rest.tail).map fun read => ('!' :: name ++ ['!'], read.1, read.2)
  else
    (readTagPart false cs).map fun read =>
      if read.1.isEmpty then ([], ascii "!", read.2) else (['!'], read.1, read.2)

/-- A tag behind its exclamation mark, as handle and suffix, and what follows: a gap, or in brackets a comma. -/
def readTag (inFlow : Bool) (cs : List Located) : Option (List Char × Tag × List Located) :=
  (readHandleAndSuffix cs).filter fun read =>
    startsGap read.2.2 || (inFlow && goesOn ',' read.2.2)

/-! ### Directives -/

/-- What a directive says: the version, or what a handle stands for. -/
inductive Directive where
  | version (major minor : Nat)
  | handle (handle : List Char) (tag : Tag)

/-- A number of at most nine digits in a version, and what follows. -/
def readVersionNumber (cs : List Located) : Option (Nat × List Located) :=
  let digits := chars (cs.takeWhile fun c => isDigit c.char)
  if digits.isEmpty || 9 < digits.length then none
  else some (decimalValue digits, cs.dropWhile fun c => isDigit c.char)

/-- A version, and what follows. -/
def readVersion (cs : List Located) : Option (Directive × List Located) := do
  let (major, rest) ← readVersionNumber (afterBlanks cs)
  guard (goesOn '.' rest)
  let (minor, rest) ← readVersionNumber rest.tail
  return (.version major minor, rest)

/-- A handle behind its exclamation mark, and what follows: the mark alone, or a name between two of them. -/
def readHandle (cs : List Located) : Option (List Char × List Located) :=
  let (name, rest) := readName cs
  if goesOn '!' rest then some ('!' :: name ++ ['!'], rest.tail)
  else if name.isEmpty then some (['!'], rest)
  else none

/-- A handle and what it stands for, and what follows. -/
def readHandleTag (cs : List Located) : Option (Directive × List Located) := do
  let cs := afterBlanks cs
  guard (goesOn '!' cs)
  let (handle, rest) ← readHandle cs.tail
  guard (rest.head?.any fun c => isBlank c.char)
  let (tag, rest) ← readTagText true (afterBlanks rest)
  guard (startsGap rest)
  return (.handle handle tag, rest)

/-- What a directive of the given name says, and what follows. -/
def readDirectiveOf (name : List Char) (cs : List Located) : Option (Directive × List Located) :=
  if name = "YAML".toList then readVersion cs else if name = "TAG".toList then readHandleTag cs else none

/-- A directive behind its percent sign, and what follows its line. -/
def readDirective (cs : List Located) : Option (Directive × List Located) := do
  let (name, rest) := readName cs
  guard (startsGap rest)
  let (directive, rest) ← readDirectiveOf name rest
  return (directive, ← afterLine? rest)

/-! ### What is left of the text -/

theorem readName_length (cs : List Located) : (readName cs).2.length ≤ cs.length := length_dropWhile_le _ cs

theorem readAnchor_length {cs rest : List Located} {name : List Char} (h : readAnchor cs = some (name, rest)) :
    rest.length ≤ cs.length := by
  unfold readAnchor at h
  dsimp only at h
  split at h
  · cases h
  · cases h
    exact readName_length cs

theorem readTagBytes_length {inFull : Bool} {due : Nat} {cs rest : List Located} {bytes : List UInt8}
    (h : readTagBytes inFull due cs = some (bytes, rest)) : rest.length ≤ cs.length := by
  unfold readTagBytes at h
  split at h
  case h_1 =>
    split at h <;> cases h
    exact Nat.le_refl _
  case h_2 c cs =>
    split at h
    case isTrue =>
      -- A byte in digits: with less than two of them, or with a byte that may not follow, nothing is read.
      split at h
      case h_2 => cases h
      case h_1 high low cs =>
        split at h
        case h_2 => cases h
        split at h
        case h_2 => cases h
        obtain ⟨read, later, parts⟩ := Option.map_eq_some_iff.mp h
        cases parts
        have := readTagBytes_length later
        simp only [List.length_cons]
        omega
    case isFalse =>
      split at h
      case isTrue => cases h
      split at h
      case isTrue =>
        obtain ⟨read, later, parts⟩ := Option.map_eq_some_iff.mp h
        cases parts
        exact Nat.le_succ_of_le (readTagBytes_length later)
      case isFalse =>
        cases h
        exact Nat.le_refl _
termination_by cs.length

theorem readTagPart_length {inFull : Bool} {cs rest : List Located} {tag : Tag}
    (h : readTagPart inFull cs = some (tag, rest)) : rest.length ≤ cs.length := by
  obtain ⟨read, bytes, parts⟩ := Option.map_eq_some_iff.mp h
  cases parts
  exact readTagBytes_length bytes

theorem readTagText_length {inFull : Bool} {cs rest : List Located} {tag : Tag}
    (h : readTagText inFull cs = some (tag, rest)) : rest.length ≤ cs.length :=
  readTagPart_length (Option.filter_eq_some_iff.mp h).1

theorem readHandleAndSuffix_length {cs rest : List Located} {handle : List Char} {tag : Tag}
    (h : readHandleAndSuffix cs = some (handle, tag, rest)) : rest.length ≤ cs.length := by
  have name := readName_length cs
  unfold readHandleAndSuffix at h
  dsimp only at h
  split at h
  · split at h
    · rename_i read
      have := readTagText_length read
      split at h
      · cases h
        simp only [List.length_tail] at *
        omega
      · cases h
    · cases h
  · split at h
    · obtain ⟨read, suffix, parts⟩ := Option.map_eq_some_iff.mp h
      cases parts
      have := readTagText_length suffix
      simp only [List.length_tail] at *
      omega
    · obtain ⟨read, suffix, parts⟩ := Option.map_eq_some_iff.mp h
      have := readTagPart_length suffix
      split at parts <;> cases parts <;> exact this

theorem readTag_length {inFlow : Bool} {cs rest : List Located} {handle : List Char} {tag : Tag}
    (h : readTag inFlow cs = some (handle, tag, rest)) : rest.length ≤ cs.length :=
  readHandleAndSuffix_length (Option.filter_eq_some_iff.mp h).1

theorem readVersionNumber_length {cs rest : List Located} {n : Nat}
    (h : readVersionNumber cs = some (n, rest)) : rest.length ≤ cs.length := by
  unfold readVersionNumber at h
  dsimp only at h
  split at h
  · cases h
  · cases h
    exact length_dropWhile_le _ cs

theorem readVersion_length {cs rest : List Located} {directive : Directive}
    (h : readVersion cs = some (directive, rest)) : rest.length ≤ cs.length := by
  obtain ⟨⟨_, _⟩, major, h⟩ := Option.bind_eq_some_iff.mp h
  obtain ⟨_, -, h⟩ := Option.bind_eq_some_iff.mp h
  obtain ⟨⟨_, _⟩, minor, h⟩ := Option.bind_eq_some_iff.mp h
  cases h
  have first := readVersionNumber_length major
  have second := readVersionNumber_length minor
  have := length_afterBlanks_le cs
  rw [List.length_tail] at second
  omega

theorem readHandle_length {cs rest : List Located} {handle : List Char}
    (h : readHandle cs = some (handle, rest)) : rest.length ≤ cs.length := by
  have name := readName_length cs
  unfold readHandle at h
  dsimp only at h
  split at h
  · cases h
    simp only [List.length_tail]
    omega
  · split at h <;> cases h
    exact name

theorem readHandleTag_length {cs rest : List Located} {directive : Directive}
    (h : readHandleTag cs = some (directive, rest)) : rest.length ≤ cs.length := by
  obtain ⟨_, -, h⟩ := Option.bind_eq_some_iff.mp h
  obtain ⟨⟨_, after⟩, handle, h⟩ := Option.bind_eq_some_iff.mp h
  obtain ⟨_, -, h⟩ := Option.bind_eq_some_iff.mp h
  obtain ⟨⟨_, _⟩, tag, h⟩ := Option.bind_eq_some_iff.mp h
  obtain ⟨_, -, h⟩ := Option.bind_eq_some_iff.mp h
  cases h
  have first := readHandle_length handle
  have second := readTagText_length tag
  have := length_afterBlanks_le cs
  have := length_afterBlanks_le after
  rw [List.length_tail] at first
  omega

theorem readDirectiveOf_length {name : List Char} {cs rest : List Located} {directive : Directive}
    (h : readDirectiveOf name cs = some (directive, rest)) : rest.length ≤ cs.length := by
  unfold readDirectiveOf at h
  split at h
  · exact readVersion_length h
  · split at h
    · exact readHandleTag_length h
    · cases h

theorem readDirective_length {cs rest : List Located} {directive : Directive}
    (h : readDirective cs = some (directive, rest)) : rest.length ≤ cs.length := by
  obtain ⟨_, -, h⟩ := Option.bind_eq_some_iff.mp h
  obtain ⟨⟨_, _⟩, told, h⟩ := Option.bind_eq_some_iff.mp h
  obtain ⟨_, line, h⟩ := Option.bind_eq_some_iff.mp h
  cases h
  calc
    rest.length ≤ _ := afterLine?_length line
    _ ≤ _ := readDirectiveOf_length told
    _ ≤ cs.length := readName_length cs

end Yaml
end TextRules
