import TextRules.Rule.Function
import TextRules.Rule.Parsed
import TextRules.Rule.Value

/-!
Compiled rules and their verdicts. A rule compiles when it has a call and a comparison and both names are
    known; the function is looked up before the operator. A compiled rule has a verdict on every text, so
    whether a rule fails does not depend on what it is applied to, and rules can be checked beforehand.
-/

namespace TextRules

/-- A rule ready to be applied. -/
structure CompiledRule where
  function : Function
  argument : String
  operator : Operator
  literal : Value
  deriving DecidableEq

namespace CompiledRule

/-- A parsed rule with its names looked up. -/
def ofParsed (p : ParsedRule) : Except RuleError CompiledRule :=
  match Function.ofName p.function with
  | .error e => .error e
  | .ok function =>
    match Operator.ofSymbol p.operator with
    | .error e => .error e
    | .ok operator => .ok ⟨function, p.argument, operator, p.literal⟩

/-- What the rule's function gives for a text. -/
def compute (rule : CompiledRule) (subject : String) : Value :=
  rule.function.call rule.argument.toList subject.toList

/-- What a compiled rule says about a text. -/
def verdict (rule : CompiledRule) (subject : String) : Bool :=
  rule.operator.holds (rule.compute subject) rule.literal

end CompiledRule

/-- A rule made ready to be applied, or why it cannot be. -/
def compile (rule : String) : Except RuleError CompiledRule :=
  match ParsedRule.parse rule with
  | .error e => .error e
  | .ok parsed => CompiledRule.ofParsed parsed

/-- The verdict of a rule on a text, or why it has none. -/
def evaluate (rule subject : String) : Except RuleError Bool :=
  match compile rule with
  | .error e => .error e
  | .ok compiled => .ok (compiled.verdict subject)

/-! ### Checking -/

/-- The rules of a list, each with what is wrong with it, if anything is. -/
structure RuleCheck where
  findings : List (String × Option RuleError)

namespace RuleCheck

/-- What is wrong with a rule. -/
def fault? (rule : String) : Option RuleError :=
  match compile rule with
  | .ok _ => none
  | .error e => some e

/-- The check of a list of rules. -/
def ofRules (rules : List String) : RuleCheck := ⟨rules.map fun rule => (rule, fault? rule)⟩

/-- The rules that do not compile. -/
def invalid (c : RuleCheck) : List String := (c.findings.filter (·.2.isSome)).map (·.1)

/-- Whether all rules compile. -/
def passes (c : RuleCheck) : Bool := c.invalid.isEmpty

/-- One line on a rule. -/
def line (finding : String × Option RuleError) : String :=
  match finding.2 with
  | none => "ok      " ++ finding.1
  | some e => "invalid " ++ finding.1 ++ " (" ++ e.message ++ ")"

/-- The line at the end of a check that passes. -/
def summary (c : RuleCheck) : String := toString c.findings.length ++ " rules OK"

/-- The lines that a check prints. -/
def lines (c : RuleCheck) : List String := c.findings.map line ++ if c.passes then [c.summary] else []

/-- What there is to say of a check that does not pass. -/
def complaint (c : RuleCheck) (path : String) : String :=
  toString c.invalid.length ++ " of " ++ toString c.findings.length ++ " rules in " ++ path ++ " are invalid"

end RuleCheck
end TextRules
