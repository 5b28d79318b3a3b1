import TextRules.Json.Document
import TextRules.Number.Decimal
import TextRules.Text.Basic

/-!
Values and their comparison. A value is what a rule's function computes and what a rule compares it with. Two
    numbers are ordered as numbers. Every other pair is ordered as texts by code point, a number standing for its
    plain form. So the order is total but for NaN among numbers. An unordered pair fails every test of order; it
    is unequal. A rule that has no verdict always fails in the same way, whatever it is applied to.
-/

namespace TextRules

/-- A function's result or a comparison's literal. -/
inductive Value where
  | number (n : Number)
  | text (s : String)
  deriving DecidableEq

namespace Value

open Text

/-- The value of a literal as written: a number if the text spells one, otherwise the text without the blanks
    and then without the quotes at its ends. -/
def ofLiteral (raw : List Char) : Value :=
  match Number.parse? raw with
  | some n => number n
  | none => text (String.ofList (stripQuotes (trimChars raw)))

/-- The text of a value. -/
def toText : Value → String
  | number n => n.display
  | text s => s

/-- The order of two values; absent only for two numbers of which one is NaN. -/
def compare : Value → Value → Option Ordering
  | number l, number r => l.compare r
  | l, r => some (Ord.compare l.toText.toList r.toText.toList)

/-- Equality of two values, with the same choice between numbers and texts. -/
def equals : Value → Value → Bool
  | number l, number r => l.equals r
  | l, r => l.toText == r.toText

/-- A value as a JSON document. -/
def toJson : Value → Json
  | number n => .number n
  | text s => .string s

end Value

/-! ### Errors -/

/-- Why a rule has no verdict. The two syntax errors carry the rule as it was passed. -/
inductive RuleError where
  | invalidFunctionSyntax (rule : String)
  | invalidComparisonSyntax (rule : String)
  | unknownFunction (name : String)
  | unknownOperator (symbol : String)
  deriving DecidableEq

/-- The wording of an error. -/
def RuleError.message : RuleError → String
  | invalidFunctionSyntax rule => "invalid function syntax in rule `" ++ rule ++ "`"
  | invalidComparisonSyntax rule => "invalid operator or comparison value in rule `" ++ rule ++ "`"
  | unknownFunction name => "unknown function: " ++ name
  | unknownOperator symbol => "unknown operator: " ++ symbol

/-! ### Operators -/

/-- An operator of a comparison. -/
inductive Operator where
  | gt
  | lt
  | ge
  | le
  | eq
  | ne
  deriving DecidableEq

namespace Operator

/-- The symbol by which a rule names an operator. -/
def symbol : Operator → String
  | gt => ">"
  | lt => "<"
  | ge => ">="
  | le => "<="
  | eq => "="
  | ne => "!="

/-- The name of an operator in JSON. -/
def name : Operator → String
  | gt => "Gt"
  | lt => "Lt"
  | ge => "Ge"
  | le => "Le"
  | eq => "Eq"
  | ne => "Ne"

/-- The operators that there are. -/
def all : List Operator := [gt, lt, ge, le, eq, ne]

/-- The operator of a symbol. -/
def ofSymbol? (s : String) : Option Operator := all.find? (·.symbol == s)

/-- The operator of a symbol, or why there is none. -/
def ofSymbol (s : String) : Except RuleError Operator :=
  match ofSymbol? s with
  | some op => .ok op
  | none => .error (.unknownOperator s)

/-- Whether two values are in the relation. -/
def holds (op : Operator) (left right : Value) : Bool :=
  match op with
  | eq => left.equals right
  | ne => !left.equals right
  | gt => left.compare right == some .gt
  | lt => left.compare right == some .lt
  | ge => left.compare right == some .gt || left.compare right == some .eq
  | le => left.compare right == some .lt || left.compare right == some .eq

theorem ofSymbol_symbol (op : Operator) : ofSymbol op.symbol = .ok op := by
  cases op <;> simp [ofSymbol, ofSymbol?, all, symbol]

end Operator
end TextRules
