import TextRules.Rule.Value
import TextRules.Text.Basic
import TextRules.Text.Word

/-!
Parsed rules: the call and the comparison of a rule, each found on its own in the trimmed text. The call taken is the
    one whose open parenthesis is the first that directly follows a word character. Its name is the whole run of
    word characters in front, and it ends at the first close parenthesis. A comparison is an operator symbol, blanks,
    and a literal that ends the text: an unquoted number or a text in quotes of one kind with no such quote inside.
    The comparison taken begins at the first place where one can be read. The call is looked for first, so a text
    with neither is reported as lacking a call. Names are kept as written.
-/

namespace TextRules

open Text

/-! ### Calls -/

/-- A text cut up around a call: `before name(inside)after`. -/
structure Call where
  before : List Char
  name : List Char
  inside : List Char
  after : List Char
  deriving DecidableEq

namespace Call

/-- The text that was cut up. -/
def whole (c : Call) : List Char := c.before ++ c.name ++ '(' :: c.inside ++ ')' :: c.after

/-- The text cut at the first open parenthesis that follows a word character: what is before the name, the
    name, and what is after the parenthesis. `run` holds the word characters just passed and `before` all
    that was passed before them, both latest first. -/
def splitOpen? (before run : List Char) : List Char → Option (List Char × List Char × List Char)
  | [] => none
  | c :: cs =>
    if c = '(' ∧ run ≠ [] then some (before.reverse, run.reverse, cs)
    else if isWord c then splitOpen? before (c :: run) cs
    else splitOpen? (c :: (run ++ before)) [] cs

/-- The call that a text is cut up around, if there is one. -/
def find? (cs : List Char) : Option Call :=
  match splitOpen? [] [] cs with
  | none => none
  | some (before, name, rest) =>
    if ')' ∈ rest then
      some ⟨before, name, rest.takeWhile (· ≠ ')'), (rest.dropWhile (· ≠ ')')).drop 1⟩
    else none

/-- The arguments: the pieces between commas, without the blanks and then without the quotes at their
    ends. -/
def arguments (c : Call) : List String :=
  (splitAt ',' c.inside).map fun piece => String.ofList (stripQuotes (trimChars piece))

end Call

/-! ### Comparisons -/

/-- A text cut up before a comparison that ends it: `before symbol blanks literal`. -/
structure Comparison where
  before : List Char
  symbol : List Char
  blanks : List Char
  literal : List Char
  deriving DecidableEq

namespace Comparison

/-- The text that was cut up. -/
def whole (c : Comparison) : List Char := c.before ++ c.symbol ++ c.blanks ++ c.literal

/-- A character that begins an operator symbol. -/
def beginsSymbol (c : Char) : Bool := c == '<' || c == '>' || c == '!' || c == '='

/-- Digits with at most one point among them and at least one digit at the end. -/
def isUnsignedNumeral (cs : List Char) : Bool :=
  match cs.dropWhile isDigit with
  | [] => !cs.isEmpty
  | '.' :: fraction => !fraction.isEmpty && fraction.all isDigit
  | _ => false

/-- An unquoted number: an optional minus and an unsigned numeral. -/
def isNumeral : List Char → Bool
  | '-' :: cs => isUnsignedNumeral cs
  | cs => isUnsignedNumeral cs

/-- A text in quotes of one kind, with no such quote inside. -/
def isQuotedText : List Char → Bool
  | q :: cs => isQuote q && cs.dropWhile (· ≠ q) == [q]
  | [] => false

/-- What a rule may compare with: an unquoted number or a text in quotes. -/
def isLiteral (cs : List Char) : Bool := isNumeral cs || isQuotedText cs

/-- The symbol at the front of a text, as long as it can be, and what follows it. -/
def readSymbol? : List Char → Option (List Char × List Char)
  | c :: '=' :: cs => if beginsSymbol c then some ([c, '='], cs) else none
  | c :: cs => if beginsSymbol c then some ([c], cs) else none
  | [] => none

/-- The whole of `cs` read as a comparison with nothing before it. -/
def read? (cs : List Char) : Option Comparison :=
  match readSymbol? cs with
  | none => none
  | some (symbol, rest) =>
    let literal := rest.dropWhile isBlank
    if isLiteral literal then some ⟨[], symbol, rest.takeWhile isBlank, literal⟩ else none

/-- The comparison at the first place where one can be read. `passed` is the text before, latest first. -/
def findFrom? (passed : List Char) : List Char → Option Comparison
  | [] => none
  | c :: cs =>
    match read? (c :: cs) with
    | some found => some { found with before := passed.reverse }
    | none => findFrom? (c :: passed) cs

/-- The comparison that ends a text, if one does. -/
def find? (cs : List Char) : Option Comparison := findFrom? [] cs

end Comparison

/-! ### Rules -/

/-- A rule's parts, before its function and operator are looked up. -/
structure ParsedRule where
  function : String
  arguments : List String
  operator : String
  literal : Value

namespace ParsedRule

/-- The argument that the function receives: the first, further ones being ignored. -/
def argument (p : ParsedRule) : String := p.arguments.headD ""

/-- The parts of a rule, or which of them is missing. -/
def parse (rule : String) : Except RuleError ParsedRule :=
  let text := trimChars rule.toList
  match Call.find? text with
  | none => .error (.invalidFunctionSyntax rule)
  | some call =>
    match Comparison.find? text with
    | none => .error (.invalidComparisonSyntax rule)
    | some comparison =>
      .ok {
        function := String.ofList call.name
        arguments := call.arguments
        operator := String.ofList comparison.symbol
        literal := Value.ofLiteral comparison.literal }

/-- A parsed rule as a JSON document. -/
def toJson (p : ParsedRule) : Json :=
  .object [("function", .string p.function), ("arguments", .array (p.arguments.map .string)),
    ("operator", .string p.operator), ("literal", p.literal.toJson)]

end ParsedRule
end TextRules
