import TextRules.Files
import TextRules.Rule.Compiled
import TextRules.Text.Basic
import TextRules.Yaml.Content

/-!
The rule store: the shared list of rules, ordered and without repetition, every rule trimmed. New rules are
    checked before they enter; a store may also be seeded with rules that do not compile, and each of them
    stays until it is deleted or replaced. A rule file, a list of rules in YAML under the name `rules`, fills a store.
-/

namespace TextRules

open Text

/-- Why the store refuses an operation, or could not be filled from a file. -/
inductive StoreError where
  | ruleExists (rule : String)
  | ruleNotFound (rule : String)
  | invalidRule (e : RuleError)
  /-- The rule file could not be read. -/
  | io (detail : String)
  /-- The rule file is not what a rule file should be. -/
  | parse (detail : String)
  deriving DecidableEq

/-- The wording of a refusal. -/
def StoreError.message : StoreError → String
  | ruleExists rule => "Rule already exists: " ++ rule
  | ruleNotFound rule => "Rule not found: " ++ rule
  | invalidRule e => "Invalid rule: " ++ e.message
  | io detail => "Failed to read rule file: " ++ detail
  | parse detail => "Failed to parse rule file: " ++ detail

/-- The listed rules, in order. -/
structure RuleStore where
  rules : List String
  deriving DecidableEq

namespace RuleStore

/-- The store that lists no rules. -/
def empty : RuleStore := ⟨[]⟩

/-- A store with one more rule at the end, unless it is listed. -/
def addNew (store : RuleStore) (rule : String) : RuleStore :=
  if rule ∈ store.rules then store else ⟨store.rules ++ [rule]⟩

/-- The store that lists the given rules, trimmed, each at its first place. -/
def ofSeeds (seeds : List String) : RuleStore :=
  seeds.foldl (fun store seed => store.addNew (trim seed)) empty

/-- The store with a rule added at the end. -/
def create (store : RuleStore) (rule : String) : Except StoreError RuleStore :=
  let rule := trim rule
  match compile rule with
  | .error e => .error (.invalidRule e)
  | .ok _ => if rule ∈ store.rules then .error (.ruleExists rule) else .ok ⟨store.rules ++ [rule]⟩

/-- The store with a rule replaced where it stands. -/
def update (store : RuleStore) (rule replacement : String) : Except StoreError RuleStore :=
  let rule := trim rule
  let replacement := trim replacement
  match compile replacement with
  | .error e => .error (.invalidRule e)
  | .ok _ =>
    match store.rules.idxOf? rule with
    | none => .error (.ruleNotFound rule)
    | some place =>
      if rule ≠ replacement ∧ replacement ∈ store.rules then .error (.ruleExists replacement)
      else .ok ⟨store.rules.set place replacement⟩

/-- The store with a rule removed, and that rule. -/
def delete (store : RuleStore) (rule : String) : Except StoreError (String × RuleStore) :=
  let rule := trim rule
  if rule ∈ store.rules then .ok (rule, ⟨store.rules.erase rule⟩) else .error (.ruleNotFound rule)

end RuleStore

/-- An operation on a store. -/
inductive StoreOperation where
  | create (rule : String)
  | update (rule replacement : String)
  | delete (rule : String)

namespace RuleStore

/-- The outcome of an operation, with the removed rule if it removes one, and the store after it. -/
def apply (store : RuleStore) : StoreOperation → Except StoreError (Option String) × RuleStore
  | .create rule =>
    match store.create rule with
    | .ok store => (.ok none, store)
    | .error e => (.error e, store)
  | .update rule replacement =>
    match store.update rule replacement with
    | .ok store => (.ok none, store)
    | .error e => (.error e, store)
  | .delete rule =>
    match store.delete rule with
    | .ok (removed, store) => (.ok (some removed), store)
    | .error e => (.error e, store)

end RuleStore

/-! ### Rule files -/

/-- The rules of a file as they are written there. -/
structure RuleFile where
  rules : List String
  deriving DecidableEq

namespace RuleFile

/-- The rule file that a text is. A file that names no rules has none. -/
def parse? (text : String) : Option RuleFile := do
  let doc ← Yaml.Document.parse? text
  let rules ← (← doc.fields?).get "rules" (Yaml.Node.texts? doc) []
  return ⟨rules⟩

/-- The rule file that is found under a path. -/
def load (content : FileContent) : Except StoreError RuleFile :=
  match content.text? with
  | none => .error (.io "")
  | some text =>
    match parse? text with
    | none => .error (.parse "")
    | some file => .ok file

/-- The store that the file fills. -/
def store (file : RuleFile) : RuleStore := .ofSeeds file.rules

end RuleFile
end TextRules
