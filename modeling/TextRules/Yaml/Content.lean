import TextRules.Text.Basic
import TextRules.Yaml.Node

/-!
What the nodes of a document hold: texts, numbers, flags, lists and records. Any scalar is a text. Numbers and
    flags are written without quotes, or as a literal text with their tag. A record is a mapping whose keys are
    scalars; of the fields that are asked for none may be there twice, and others do no harm. Where a list or
    record is asked for, the empty node is one without items.
-/

namespace TextRules
namespace Yaml

open Text

/-- The fields of a record in the order in which they are written. -/
abbrev Fields := List (String × Node)

/-- The words for nothing. -/
def isNull (s : String) : Bool := ["~", "null", "Null", "NULL"].contains s

/-- The tag of values of a kind that every document knows. -/
def coreTag (kind : String) : Tag := ascii ("tag:yaml.org,2002:" ++ kind)

/-- The number spelled by digits in a base, of which there has to be one. -/
def naturalOfDigits? (base : Nat) (digits : List Char) : Option Nat :=
  match digits.mapM hexValue? with
  | none | some [] => none
  | some values => if values.all (· < base) then some (values.foldl (fun n d => base * n + d) 0) else none

/-- The number that a text spells, decimal and without leading zeros, or in base 16, 8 or 2 behind `0x`, `0o` or
    `0b`; a plus sign may stand before it. -/
def natural? (cs : List Char) : Option Nat :=
  match if cs.head? = some '+' then cs.tail else cs with
  | '0' :: 'x' :: digits => naturalOfDigits? 16 digits
  | '0' :: 'o' :: digits => naturalOfDigits? 8 digits
  | '0' :: 'b' :: digits => naturalOfDigits? 2 digits
  | ['0'] => some 0
  | '0' :: _ => none
  | digits => naturalOfDigits? 10 digits

/-- The optional text that a scalar stands for. Between quotes, in a block and behind most tags every text is one;
    behind the tag for nothing only words for nothing stand. -/
def optionalText? (style : Style) (tag : Option Tag) (s : String) : Option (Option String) :=
  if style ≠ .plain then some (some s)
  else if tag = some (coreTag "null") then if isNull s then some none else none
  else if tag = none ∧ (s = "" ∨ isNull s) then some none
  else some (some s)

/-- Whether a scalar can be a value of a kind that is not a text. -/
def isPlainOr (kind : String) (style : Style) (tag : Option Tag) : Bool :=
  style = .plain ∨ (style = .literal ∧ tag = some (coreTag kind))

namespace Node

/-- What a node is, be it behind an anchor or named by an alias. -/
def content (doc : Document) : Node → Option Node
  | anchored _ n => some n
  | reference number => doc.anchors.lookup number
  | n => some n

/-- The text of a scalar. -/
def text? (doc : Document) (n : Node) : Option String :=
  match n.content doc with
  | some (scalar _ _ s) => some s
  | _ => none

/-- The text of a scalar, which may be nothing. -/
def optionalText? (doc : Document) (n : Node) : Option (Option String) :=
  match n.content doc with
  | some (scalar style tag s) => Yaml.optionalText? style tag s
  | _ => none

/-- A number below a limit. -/
def natural? (limit : Nat) (doc : Document) (n : Node) : Option Nat :=
  match n.content doc with
  | some (scalar style tag s) =>
    if isPlainOr "int" style tag then (Yaml.natural? s.toList).filter (· < limit) else none
  | _ => none

/-- A flag, in lower case, in upper case, or with a capital. -/
def flag? (doc : Document) (n : Node) : Option Bool :=
  match n.content doc with
  | some (scalar style tag s) =>
    if !isPlainOr "bool" style tag then none
    else if ["true", "True", "TRUE"].contains s then some true
    else if ["false", "False", "FALSE"].contains s then some false
    else none
  | _ => none

/-- The items of a list. -/
def items? (doc : Document) (n : Node) : Option (List Node) :=
  match n.content doc with
  | some (sequence items) => some items
  | some (scalar .plain _ "") => some []
  | _ => none

/-- The texts of a list of scalars. -/
def texts? (doc : Document) (n : Node) : Option (List String) := (n.items? doc).bind (List.mapM (text? doc))

/-- The fields of a record. -/
def fields? (doc : Document) (n : Node) : Option Fields :=
  match n.content doc with
  | some (mapping entries) => entries.mapM fun entry => (entry.1.text? doc).map (·, entry.2)
  | some (scalar .plain _ "") => some []
  | _ => none

end Node

/-- The fields of the record that a document holds. -/
def Document.fields? (doc : Document) : Option Fields := doc.root.fields? doc

/-- What a field holds, or a value for when it is not there. -/
def Fields.get (fields : Fields) (name : String) (read : Node → Option α) (missing : α) : Option α :=
  match fields.filter (·.1 == name) with
  | [] => some missing
  | [field] => read field.2
  | _ => none

end Yaml
end TextRules
