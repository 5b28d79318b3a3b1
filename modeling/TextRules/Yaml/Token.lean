import TextRules.Yaml.Lexeme

/-!
Tokens: the lexemes of a text with its indentation made explicit. Outside brackets a collection is open as long
    as lines are indented as far as its first item, or farther. A key is known only by the colon behind it: each
    place where a key may begin is kept until the colon comes, on the same line and no more than 1024 bytes later.
    Where a key has to begin, the colon must come. Names are taken for what they name: an anchor is numbered by
    how many different names anchors had before, and a tag is put together from what its handle stands for.
-/

namespace TextRules
namespace Yaml

/-- A lexeme, or the beginning or end of a collection that indentation shows. -/
inductive Token where
  | documentStart
  | documentEnd
  | blockSequenceStart
  | blockMappingStart
  | blockEnd
  | flowSequenceStart
  | flowSequenceEnd
  | flowMappingStart
  | flowMappingEnd
  | blockEntry
  | flowEntry
  | key
  | value
  | directive
  /-- An anchor by its number. -/
  | anchor (number : Nat)
  /-- An alias by the number of the anchor that it names. -/
  | reference (number : Nat)
  /-- A tag in full. -/
  | tag (tag : Tag)
  | scalar (style : Style) (text : List Char)
  deriving DecidableEq

/-- A place where a key may begin, or has to: how many tokens are before it, and where it stands. -/
structure KeyStart where
  place : Nat
  line : Nat
  column : Nat
  offset : Nat
  isRequired : Bool

/-- How far apart the beginning of a key and its colon may be, in bytes. -/
def keyReach : Nat := 1024

/-- Whether a colon may still come, seen from a later character. -/
def KeyStart.reaches (k : KeyStart) (now : Located) : Bool :=
  now.line ≤ k.line && now.offset ≤ k.offset + keyReach

/-- The tokens so far, the last of them first, and their number; the columns of the open collections outside
    brackets, the innermost first; the places where a key may have begun, one for each open bracket and one
    for the text outside them; the names of anchors with the numbers they had last; and the directives: whether
    one told the version, and what handles stand for. -/
structure Layout where
  tokens : List Token := []
  size : Nat := 0
  columns : List Nat := []
  key : Option KeyStart := none
  outerKeys : List (Option KeyStart) := []
  keyAllowed : Bool := true
  anchors : List (List Char × Nat) := []
  hasVersion : Bool := false
  handles : List (List Char × Tag) := []

/-- What handles stand for where no directive says it. -/
def defaultHandles : List (List Char × Tag) := [(['!'], ascii "!"), (['!', '!'], ascii "tag:yaml.org,2002:")]

namespace Layout

/-- Whether the text is inside brackets. -/
def inFlow (s : Layout) : Bool := !s.outerKeys.isEmpty

/-- The least column at which a plain scalar may go on. -/
def margin (s : Layout) : Nat := (s.columns.head?.map (· + 1)).getD 0

/-- One more token. -/
def push (s : Layout) (t : Token) : Layout := { s with tokens := t :: s.tokens, size := s.size + 1 }

/-- One more token at a place before the last ones. -/
def insert (s : Layout) (place : Nat) (t : Token) : Layout :=
  { s with tokens := s.tokens.insertIdx (s.size - place) t, size := s.size + 1 }

/-- Whether a key may begin here. -/
def allowKey (s : Layout) (b : Bool) : Layout := { s with keyAllowed := b }

/-- A place where a key has to begin is not given up. -/
def dropKey (s : Layout) : Option Layout :=
  if s.key.any (·.isRequired) then none else some { s with key := none }

/-- A place where a key may begin. One has to where the innermost collection is indented as far. -/
def startKey (s : Layout) (now : Located) : Option Layout :=
  if s.keyAllowed then
    s.dropKey.map fun s =>
      let isRequired := !s.inFlow && s.columns.head? == some now.column
      { s with key := some ⟨s.size, now.line, now.column, now.offset, isRequired⟩ }
  else some s

/-- A place from which the colon cannot come any more. -/
def expire (now : Located) : Option KeyStart → Option (Option KeyStart)
  | none => some none
  | some k => if k.reaches now then some (some k) else if k.isRequired then none else some none

/-- The places from which a colon may still come. -/
def expireKeys (s : Layout) (now : Located) : Option Layout := do
  let key ← expire now s.key
  let outerKeys ← s.outerKeys.mapM (expire now)
  return { s with key := key, outerKeys := outerKeys }

/-- The collections outside brackets ended that satisfy a test on their columns. -/
def closeBlocks (s : Layout) (ends : Nat → Bool) : Layout :=
  if s.inFlow then s
  else
    (s.columns.takeWhile ends).foldl (fun s _ => s.push .blockEnd) { s with columns := s.columns.dropWhile ends }

/-- A collection begun outside brackets, before the token at a place, if no collection is indented as far. -/
def openBlock (s : Layout) (start : Token) (place column : Nat) : Layout :=
  if s.inFlow || s.columns.head?.any (column ≤ ·) then s
  else { s.insert place start with columns := column :: s.columns }

/-- A mark that begins an entry, outside brackets only where a key may begin. -/
def takeEntry (s : Layout) (now : Located) (start mark : Token) : Option Layout :=
  if s.inFlow || s.keyAllowed then
    (s.openBlock start s.size now.column).dropKey.map (·.push mark)
  else none

/-- A document begun or ended, or a directive, which stands before one. -/
def takeDocumentMark (s : Layout) (mark : Token) : Option Layout :=
  (s.closeBlocks fun _ => true).dropKey.map fun s => (s.allowKey false).push mark

/-- A bracket opened. -/
def takeOpening (s : Layout) (now : Located) (mark : Token) : Option Layout :=
  (s.startKey now).map fun s =>
    { s with key := none, outerKeys := s.key :: s.outerKeys, keyAllowed := true }.push mark

/-- A bracket closed. -/
def takeClosing (s : Layout) (mark : Token) : Option Layout :=
  s.dropKey.map fun s =>
    { s with key := s.outerKeys.head?.getD none, outerKeys := s.outerKeys.tail, keyAllowed := false }.push mark

/-- A colon: the key began at the place that was kept, or it is empty. -/
def takeColon (s : Layout) (now : Located) : Option Layout :=
  match s.key with
  | some k =>
    let s := { s.insert k.place .key with key := none, keyAllowed := false }
    some ((s.openBlock .blockMappingStart k.place k.column).push .value)
  | none => (s.takeEntry now .blockMappingStart .value).map fun s => s.allowKey !s.inFlow

/-- A property of a node, or an alias: a key may begin with it. -/
def takeProperty (s : Layout) (now : Located) (t : Token) : Option Layout :=
  (s.startKey now).map fun s => (s.allowKey false).push t

/-- An anchor, which gives a name to the next node. -/
def takeAnchor (s : Layout) (now : Located) (name : List Char) : Option Layout :=
  (s.takeProperty now (.anchor s.anchors.length)).map fun s =>
    { s with anchors := (name, s.anchors.length) :: s.anchors.filter (·.1 != name) }

/-- A tag, put together from its parts. Without a handle the suffix is all of it. -/
def fullTag? (s : Layout) (handle : List Char) (suffix : Tag) : Option Tag :=
  if handle.isEmpty then some suffix else ((s.handles ++ defaultHandles).lookup handle).map (· ++ suffix)

/-- What a directive says, which is one of two versions, told once, or a handle that has no meaning yet. -/
def learn (s : Layout) : Directive → Option Layout
  | .version major minor =>
    if s.hasVersion || major != 1 || (minor != 1 && minor != 2) then none else some { s with hasVersion := true }
  | .handle handle tag =>
    if (s.handles.lookup handle).isSome then none else some { s with handles := (handle, tag) :: s.handles }

/-- A scalar. A key may begin with it unless it is a block, behind which a new line begins. -/
def takeScalar (s : Layout) (now : Located) (style : Style) (text : List Char) (broken : Bool) : Option Layout :=
  (if style = .literal ∨ style = .folded then s.dropKey else s.startKey now).map fun s =>
    (s.allowKey broken).push (.scalar style text)

/-- The tokens with one more lexeme, which begins at the given character. -/
def take (s : Layout) (now : Located) : Lexeme → Option Layout
  | .documentStart => s.takeDocumentMark .documentStart
  | .documentEnd => s.takeDocumentMark .documentEnd
  | .openSequence => s.takeOpening now .flowSequenceStart
  | .openMapping => s.takeOpening now .flowMappingStart
  | .closeSequence => s.takeClosing .flowSequenceEnd
  | .closeMapping => s.takeClosing .flowMappingEnd
  | .comma => s.dropKey.map fun s => (s.allowKey true).push .flowEntry
  | .dash => (s.takeEntry now .blockSequenceStart .blockEntry).map fun s => s.allowKey true
  | .question => (s.takeEntry now .blockMappingStart .key).map fun s => s.allowKey !s.inFlow
  | .colon => s.takeColon now
  | .directive d => (s.takeDocumentMark .directive).bind fun s => s.learn d
  | .anchor name => s.takeAnchor now name
  | .reference name => (s.anchors.lookup name).bind fun n => s.takeProperty now (.reference n)
  | .tag handle suffix => (s.fullTag? handle suffix).bind fun t => s.takeProperty now (.tag t)
  | .scalar style text broken => s.takeScalar now style text broken

/-- The tokens at the end of the text. -/
def finish (s : Layout) : Option (List Token) :=
  (s.closeBlocks fun _ => true).dropKey.map (·.tokens.reverse)

/-- The layout before a lexeme that begins at the given character. -/
def arrive (s : Layout) (keyAllowed : Bool) (now : Located) : Option Layout :=
  ((s.allowKey keyAllowed).expireKeys now).map fun s => s.closeBlocks (now.column < ·)

end Layout

/-- The tokens of what follows, behind those read before. -/
def tokensFrom (s : Layout) (cs : List Located) : Option (List Token) :=
  match _hs : skipGaps s.inFlow s.keyAllowed false cs with
  | (_, []) => s.finish
  | (keyAllowed, c :: rest) =>
    match s.arrive keyAllowed c with
    | none => none
    | some here =>
      match _hl : readLexeme here.inFlow here.margin c rest with
      | none => none
      | some (x, after) =>
        match here.take c x with
        | none => none
        | some s => tokensFrom s after
termination_by cs.length
decreasing_by
  have := skipGaps_rest_length _hs
  have := readLexeme_length _hl
  omega

/-- The tokens of a text, if it consists of lexemes that stand where they may. -/
def tokens (text : List Char) : Option (List Token) :=
  if text.all isAllowed then tokensFrom {} (locate text) else none

end Yaml
end TextRules
