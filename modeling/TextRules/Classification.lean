import TextRules.Json.Document
import TextRules.Json.Record
import TextRules.Rule.Compiled

/-!
Classifications: what a list of rules says about one message, a slot for each rule in order. A slot carries the
    verdict or the wording of the rule's error, so a rule that fails does not disturb the others. A
    classification is written as a JSON array and read back from one.
-/

namespace TextRules

/-- What one rule says about one message. -/
structure Outcome where
  /-- The rule as it stands in the rule list. -/
  rule : String
  /-- The verdict, absent if the rule failed. -/
  result : Option Bool
  /-- Why the rule failed, absent if it did not. -/
  error : Option String
  deriving DecidableEq

namespace Outcome

/-- The slot of a rule that has a verdict. -/
def verdict (rule : String) (result : Bool) : Outcome := ⟨rule, some result, none⟩

/-- The slot of a rule that has failed. -/
def failed (rule : String) (error : RuleError) : Outcome := ⟨rule, none, some error.message⟩

/-- Whether the rule has a verdict, as the lack of an error shows. -/
def isOk (o : Outcome) : Bool := o.error.isNone

/-- The slot of a rule on a message. -/
def ofRule (rule message : String) : Outcome :=
  match evaluate rule message with
  | .ok result => verdict rule result
  | .error e => failed rule e

/-- An outcome as a JSON document; absent members are left out. -/
def toJson (o : Outcome) : Json :=
  .object (("rule", .string o.rule) ::
    ((o.result.map fun b => ("result", Json.bool b)).toList ++
      (o.error.map fun s => ("error", Json.string s)).toList))

/-- The members of an outcome in JSON. Only the rule has to be there. -/
def schema : Json.Schema := [("rule", .text), ("result", .optionalFlag), ("error", .optionalText)]

/-- The outcome at the front of a list of tokens, and what follows it. -/
def ofTokens? (ts : List Json.Token) : Option (Outcome × List Json.Token) :=
  match Json.readRecord schema ts with
  | .error _ => none
  | .ok (found, rest) =>
    match found.text? "rule" with
    | some rule => some (⟨rule, found.flag? "result", found.text? "error"⟩, rest)
    | none => none

theorem ofTokens?_length {ts rest : List Json.Token} {o : Outcome} (h : ofTokens? ts = some (o, rest)) :
    rest.length < ts.length := by
  unfold ofTokens? at h
  split at h
  · cases h
  · rename_i found after read
    split at h
    · cases h
      exact Json.readRecord_length read
    · cases h

end Outcome

/-- What a list of rules says about one message, in the order of the rules. -/
structure Classification where
  outcomes : List Outcome
  deriving DecidableEq

namespace Classification

/-- The classification by no rules. -/
def empty : Classification := ⟨[]⟩

/-- A classification with one more outcome at the end. -/
def push (c : Classification) (o : Outcome) : Classification := ⟨c.outcomes ++ [o]⟩

/-- The number of outcomes, those with an error among them. -/
def size (c : Classification) : Nat := c.outcomes.length

/-- The number of outcomes with an error. -/
def errorCount (c : Classification) : Nat := c.outcomes.countP fun o => !o.isOk

/-- A classification as a JSON document. -/
def toJson (c : Classification) : Json := .array (c.outcomes.map Outcome.toJson)

/-- A classification as the text that is sent to a client. -/
def payload (c : Classification) : String := c.toJson.render

/-- Outcomes separated by commas up to the end of the array, which ends the text. -/
def outcomesOfTokens? (ts : List Json.Token) : Option (List Outcome) :=
  match _h : Outcome.ofTokens? ts with
  | none => none
  | some (outcome, rest) =>
    match _hr : rest with
    | .comma :: rest => (outcomesOfTokens? rest).map (outcome :: ·)
    | [.endArray] => some [outcome]
    | _ => none
termination_by ts.length
decreasing_by
  subst _hr
  exact Nat.lt_of_succ_lt (Outcome.ofTokens?_length _h)

/-- The classification that a text is, if it is an array of outcomes and nothing follows it. -/
def parse? (text : String) : Option Classification :=
  match Json.tokens (Utf8.ofText text.toList) with
  | [.beginArray, .endArray] => some empty
  | .beginArray :: ts => (outcomesOfTokens? ts).map Classification.mk
  | _ => none

end Classification

/-- What the rules say about a message, each in a slot of its own. -/
def classify (rules : List String) (message : String) : Classification :=
  ⟨rules.map fun rule => Outcome.ofRule rule message⟩

end TextRules
