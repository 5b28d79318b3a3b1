import TextRules.Yaml.Token

/-!
Nodes: the tree that a text lays out. A node is a scalar, a sequence or a mapping, or an alias of one; where a node
    may stand and none does, it is the plain scalar without characters. A text holds at most one document.
-/

namespace TextRules
namespace Yaml

/-- A tree of scalars. A scalar carries how it was written, and its tag. -/
inductive Node where
  | scalar (style : Style) (tag : Option Tag) (text : String)
  | sequence (items : List Node)
  | mapping (entries : List (Node × Node))
  /-- A node behind an anchor. -/
  | anchored (number : Nat) (node : Node)
  /-- The node of an anchor that came before. -/
  | reference (number : Nat)

/-- What stands before the content of a node. -/
structure Properties where
  anchor : Option Nat := none
  tag : Option Tag := none
  deriving DecidableEq

namespace Properties

/-- The properties at the front of a list of tokens, in either order, and what follows. -/
def read : List Token → Properties × List Token
  | .anchor n :: .tag t :: ts => (⟨some n, some t⟩, ts)
  | .tag t :: .anchor n :: ts => (⟨some n, some t⟩, ts)
  | .anchor n :: ts => (⟨some n, none⟩, ts)
  | .tag t :: ts => (⟨none, some t⟩, ts)
  | ts => ({}, ts)

/-- The tag of a scalar that is written there. The exclamation mark alone says that it has none. -/
def scalarTag (p : Properties) : Option Tag := p.tag.filter (· != ascii "!")

/-- A node with its anchor. -/
def mark (p : Properties) (n : Node) : Node :=
  match p.anchor with
  | some number => .anchored number n
  | none => n

end Properties

namespace Node

/-- The node where none is written. -/
def empty : Node := scalar .plain none ""

/-- Whether one of the given tokens comes next. -/
def isNext (stops : List Token) : List Token → Bool
  | [] => false
  | t :: _ => stops.contains t

/-- What follows the comma that stands before each item in brackets but the first. -/
def afterComma (isFirst : Bool) (ts : List Token) : Option (List Token) :=
  if isFirst then some ts
  else
    match ts with
    | .flowEntry :: rest => some rest
    | _ => none

/-! Each of the following reads a node, or the rest of a collection, from the front of a list of tokens, and gives
what follows. The number bounds how deep the reading goes. -/

mutual

/-- A node with its properties, or an alias. -/
def read : Nat → (block indentless : Bool) → List Token → Option (Node × List Token)
  | 0, _, _, _ => none
  | bound + 1, block, indentless, ts =>
    match ts with
    | .reference number :: rest => some (reference number, rest)
    | _ =>
      match Properties.read ts with
      | (p, rest) => (readContent bound p block indentless rest).map fun node => (p.mark node.1, node.2)

/-- The content of a node; outside brackets it may be indented, and as a value it may be a sequence that is not.
    A node with properties may have none, and is the empty one. -/
def readContent : Nat → Properties → (block indentless : Bool) → List Token → Option (Node × List Token)
  | 0, _, _, _, _ => none
  | bound + 1, p, block, indentless, ts =>
    let nothing := if p = {} then none else some (scalar .plain p.tag "", ts)
    match ts with
    | .scalar style text :: rest => some (scalar style p.scalarTag (String.ofList text), rest)
    | .flowSequenceStart :: rest => readFlowItems bound [] rest
    | .flowMappingStart :: rest => readFlowEntries bound [] rest
    | .blockSequenceStart :: rest => if block then readBlockItems bound [] rest else nothing
    | .blockMappingStart :: rest => if block then readBlockEntries bound [] rest else nothing
    | .blockEntry :: _ => if indentless then readIndentlessItems bound [] ts else nothing
    | _ => nothing

/-- A node, or the empty one if the next token cannot begin one. -/
def readUnless : Nat → (stops : List Token) → (block indentless : Bool) → List Token →
    Option (Node × List Token)
  | 0, _, _, _, _ => none
  | bound + 1, stops, block, indentless, ts =>
    if isNext stops ts then some (empty, ts) else read bound block indentless ts

/-- The items of a sequence that is indented. -/
def readBlockItems : Nat → List Node → List Token → Option (Node × List Token)
  | 0, _, _ => none
  | bound + 1, items, ts =>
    match ts with
    | .blockEntry :: rest =>
      match readUnless bound [.blockEntry, .blockEnd] true false rest with
      | some (item, rest) => readBlockItems bound (item :: items) rest
      | none => none
    | .blockEnd :: rest => some (sequence items.reverse, rest)
    | _ => none

/-- The items of a sequence that is indented as far as the mapping it stands in. -/
def readIndentlessItems : Nat → List Node → List Token → Option (Node × List Token)
  | 0, _, _ => none
  | bound + 1, items, ts =>
    match ts with
    | .blockEntry :: rest =>
      match readUnless bound [.blockEntry, .key, .value, .blockEnd] true false rest with
      | some (item, rest) => readIndentlessItems bound (item :: items) rest
      | none => none
    | _ => some (sequence items.reverse, ts)

/-- The value behind a key, if there is one. -/
def readValue : Nat → (stops : List Token) → (block : Bool) → List Token → Option (Node × List Token)
  | 0, _, _, _ => none
  | bound + 1, stops, block, ts =>
    match ts with
    | .value :: rest => readUnless bound stops block block rest
    | _ => some (empty, ts)

/-- The entries of a mapping outside brackets. -/
def readBlockEntries : Nat → List (Node × Node) → List Token → Option (Node × List Token)
  | 0, _, _ => none
  | bound + 1, entries, ts =>
    match ts with
    | .key :: rest =>
      match readUnless bound [.key, .value, .blockEnd] true true rest with
      | some (key, rest) =>
        match readValue bound [.key, .value, .blockEnd] true rest with
        | some (value, rest) => readBlockEntries bound ((key, value) :: entries) rest
        | none => none
      | none => none
    | .blockEnd :: rest => some (mapping entries.reverse, rest)
    | _ => none

/-- The items of a sequence in brackets, of which a comma stands before each but the first. An item with a key is
    a mapping of that key alone. A question mark without a key takes the mark
    behind it along. -/
def readFlowItems : Nat → List Node → List Token → Option (Node × List Token)
  | 0, _, _ => none
  | bound + 1, items, ts =>
    match ts with
    | .flowSequenceEnd :: rest => some (sequence items.reverse, rest)
    | _ =>
      match afterComma items.isEmpty ts with
      | none => none
      | some (.flowSequenceEnd :: rest) => some (sequence items.reverse, rest)
      | some (.key :: rest) =>
        let key? :=
          if isNext [.value, .flowEntry, .flowSequenceEnd] rest then some (empty, rest.tail)
          else read bound false false rest
        match key? with
        | some (key, rest) =>
          match readValue bound [.flowEntry, .flowSequenceEnd] false rest with
          | some (value, rest) => readFlowItems bound (mapping [(key, value)] :: items) rest
          | none => none
        | none => none
      | some rest =>
        match read bound false false rest with
        | some (item, rest) => readFlowItems bound (item :: items) rest
        | none => none

/-- The entries of a mapping in brackets, of which a comma stands before each but the first. A node without a
    colon is a key with the empty value. -/
def readFlowEntries : Nat → List (Node × Node) → List Token → Option (Node × List Token)
  | 0, _, _ => none
  | bound + 1, entries, ts =>
    match ts with
    | .flowMappingEnd :: rest => some (mapping entries.reverse, rest)
    | _ =>
      match afterComma entries.isEmpty ts with
      | none => none
      | some (.flowMappingEnd :: rest) => some (mapping entries.reverse, rest)
      | some (.key :: rest) =>
        match readUnless bound [.value, .flowEntry, .flowMappingEnd] false false rest with
        | some (key, rest) =>
          match readValue bound [.flowEntry, .flowMappingEnd] false rest with
          | some (value, rest) => readFlowEntries bound ((key, value) :: entries) rest
          | none => none
        | none => none
      | some rest =>
        match read bound false false rest with
        | some (key, rest) => readFlowEntries bound ((key, empty) :: entries) rest
        | none => none

end

/-- How deep the reading of a list of tokens can go. -/
def depth (ts : List Token) : Nat := 5 * ts.length + 5

/-- The node of a document, from behind the mark that begins it. -/
def readDocument (ts : List Token) : Option (Node × List Token) :=
  if ts.isEmpty then some (empty, [])
  else readUnless (depth ts) [.documentStart, .documentEnd, .directive] true false ts

/-- The node of the only document in a list of tokens; without tokens there is the empty node. Behind directives
    the mark has to stand that begins a document. -/
def ofTokens? (ts : List Token) : Option Node :=
  let content? :=
    match ts with
    | [] => some (empty, [])
    | .documentStart :: rest => readDocument rest
    | .directive :: rest =>
      match rest.dropWhile (· == Token.directive) with
      | .documentStart :: rest => readDocument rest
      | _ => none
    | _ => read (depth ts) true false ts
  match content? with
  | some (node, rest) => if rest.all (· == Token.documentEnd) then some node else none
  | none => none

mutual

/-- The nodes behind anchors in a tree with the numbers of these, in the order in which they begin. -/
def anchors : Node → List (Nat × Node)
  | scalar .. | reference _ => []
  | sequence items => itemAnchors items
  | mapping entries => entryAnchors entries
  | anchored number node => (number, node) :: anchors node

/-- The nodes behind anchors in the items of a sequence. -/
def itemAnchors : List Node → List (Nat × Node)
  | [] => []
  | item :: items => anchors item ++ itemAnchors items

/-- The nodes behind anchors in the keys and values of a mapping. -/
def entryAnchors : List (Node × Node) → List (Nat × Node)
  | [] => []
  | (key, value) :: entries => anchors key ++ anchors value ++ entryAnchors entries

end

end Node

/-- A tree, and the nodes that aliases in it stand for. -/
structure Document where
  root : Node
  anchors : List (Nat × Node)

namespace Document

/-- The document that a text lays out. A number may belong to several anchors; the last one counts. -/
def parse? (text : String) : Option Document :=
  ((tokens text.toList).bind Node.ofTokens?).map fun root => ⟨root, root.anchors.reverse⟩

end Document
end Yaml
end TextRules
