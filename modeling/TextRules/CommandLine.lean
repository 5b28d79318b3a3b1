import TextRules.Json.Document
import TextRules.Rule.Compiled
import TextRules.Store.Basic
import TextRules.Text.Basic

/-!
Command lines: what the program can be asked to do, how it is read from the arguments, and what the commands print
    that do not start a server. Arguments are read from left to right and the first fault counts. An option's value
    stands behind an equals sign, right behind the letter of the option, or in the next argument, unless that begins
    with a dash and has more than it. A value in an argument of its own is taken to heart only when the next option or
    the end comes; so an argument that is not known at all is found before a bad value in front of it. Behind two
    dashes everything is an operand.
-/

namespace TextRules

/-! ### Commands -/

/-- What the command that starts a server may say; what it does not say is left to the configuration file. -/
structure ServeOptions where
  config : String := "rulestream.yaml"
  listen : Option String := none
  port : Option Nat := none
  rules : Option String := none
  adminToken : Option String := none
  verbose : Bool := false
  deriving DecidableEq

/-- The options with a token from elsewhere, which counts only where they give none. -/
def ServeOptions.withToken (o : ServeOptions) (token : Option String) : ServeOptions :=
  { o with adminToken := o.adminToken.or token }

/-- What the program is asked to do. -/
inductive Command where
  | serve (options : ServeOptions)
  | eval (rule subject : String)
  | check (path : String) (verbose : Bool)
  deriving DecidableEq

/-- Why a command line asks for no command. -/
inductive UsageError where
  | helpAsked
  | versionAsked
  | nothingAsked
  | unknownCommand
  | unknownArgument
  | missingArgument
  | missingValue
  | invalidValue
  | repeatedOption
  | unexpectedValue
  deriving DecidableEq

/-- The exit status of a program that was asked for no command; asking for help is no mistake. -/
def UsageError.status : UsageError → Nat
  | helpAsked | versionAsked => 0
  | _ => 2

/-! ### Reading -/

namespace CommandLine

open Text

/-- What an option stands for. -/
inductive OptionKind where
  | help
  | version
  | flag
  | text
  | port
  deriving DecidableEq

/-- An option: its long name, the letter that it goes by if it has one, and what it stands for. -/
structure OptionSpec where
  name : String
  letter : Option Char
  kind : OptionKind

/-- Whether a value belongs to an option. -/
def OptionSpec.takesValue (o : OptionSpec) : Bool := o.kind = .text || o.kind = .port

/-- The options that every command has. -/
def commonOptions : List OptionSpec := [⟨"help", some 'h', .help⟩, ⟨"version", some 'V', .version⟩]

/-- A command: its options and the number of its operands. -/
structure CommandSpec where
  options : List OptionSpec
  operands : Nat

/-- The command that starts a server. -/
def serveSpec : CommandSpec :=
  ⟨[⟨"config", some 'c', .text⟩, ⟨"listen", some 'l', .text⟩, ⟨"port", some 'P', .port⟩,
    ⟨"rules", some 'r', .text⟩, ⟨"admin-token", none, .text⟩, ⟨"verbose", some 'v', .flag⟩] ++ commonOptions, 0⟩

/-- The command that evaluates a rule on a text; these are its operands. -/
def evalSpec : CommandSpec := ⟨commonOptions, 2⟩

/-- The command that checks a rule file, whose path is its operand. -/
def checkSpec : CommandSpec := ⟨⟨"verbose", some 'v', .flag⟩ :: commonOptions, 1⟩

/-- The port that a text spells: a decimal number, with or without a sign. -/
def portOf? (text : String) : Option Nat :=
  let cs := text.toList
  let digits := if cs.head? = some '+' || cs.head? = some '-' then cs.tail else cs
  let n := decimalValue digits
  if digits.isEmpty || !digits.all isDigit || n ≥ Nat.pow 2 16 || (cs.head? = some '-' && n ≠ 0) then none else some n

/-- What was read of a command: the options with their values, the operands, an option whose value was read or is
    still to come, and whether everything that follows is an operand. -/
structure Progress where
  values : List (String × String) := []
  operands : List String := []
  pending : Option (OptionSpec × Option String) := none
  onlyOperands : Bool := false

namespace Progress

/-- An option with its value. -/
def set (p : Progress) (o : OptionSpec) (value : String) : Except UsageError Progress :=
  if (p.values.lookup o.name).isSome then .error .repeatedOption
  else if o.kind = .port && (portOf? value).isNone then .error .invalidValue
  else .ok { p with values := (o.name, value) :: p.values }

/-- The option whose value was read last is taken to heart. -/
def settle (p : Progress) : Except UsageError Progress :=
  match p.pending with
  | none => .ok p
  | some (_, none) => .error .missingValue
  | some (o, some value) => { p with pending := none }.set o value

/-- An option with a value that stands in the same argument. -/
def attach (p : Progress) (o : OptionSpec) (value : String) : Except UsageError Progress := do
  (← p.settle).set o value

/-- An option whose value is the next argument. -/
def await (p : Progress) (o : OptionSpec) : Except UsageError Progress := do
  return { (← p.settle) with pending := some (o, none) }

/-- An option without a value. -/
def switch (p : Progress) (o : OptionSpec) : Except UsageError Progress := do
  let p ← p.settle
  match o.kind with
  | .help => .error .helpAsked
  | .version => .error .versionAsked
  | _ => p.set o "true"

/-- An operand, if the command has room for it. -/
def operand (p : Progress) (room : Nat) (value : String) : Except UsageError Progress := do
  if p.operands.length < room then return { (← p.settle) with operands := p.operands ++ [value] }
  else .error .unknownArgument

end Progress

/-- An option by its name, with a value if an equals sign stands behind the name. -/
def readNamed (options : List OptionSpec) (p : Progress) (cs : List Char) : Except UsageError Progress :=
  let name := String.ofList (cs.takeWhile (· ≠ '='))
  let value := cs.dropWhile (· ≠ '=')
  match options.find? (·.name = name) with
  | none => .error .unknownArgument
  | some o =>
    match value with
    | _ :: value => if o.takesValue then p.attach o (String.ofList value) else .error .unexpectedValue
    | [] => if o.takesValue then p.await o else p.switch o

/-- Options by their letters, the last of them with a value if characters remain. -/
def readLetters (options : List OptionSpec) (p : Progress) : List Char → Except UsageError Progress
  | [] => .ok p
  | c :: cs =>
    match options.find? (·.letter = some c) with
    | none => .error .unknownArgument
    | some o =>
      if o.takesValue then
        match cs with
        | [] => p.await o
        | '=' :: value => p.attach o (String.ofList value)
        | value => p.attach o (String.ofList value)
      else
        match p.switch o with
        | .ok p => readLetters options p cs
        | .error e => .error e

/-- What was read, with one more argument. -/
def readArgument (spec : CommandSpec) (p : Progress) (arg : String) : Except UsageError Progress :=
  if p.onlyOperands then p.operand spec.operands arg
  else
    match arg.toList with
    | ['-', '-'] => .ok { p with onlyOperands := true }
    | '-' :: '-' :: cs => readNamed spec.options p cs
    | '-' :: c :: cs => readLetters spec.options p (c :: cs)
    | _ =>
      match p.pending with
      | some (o, none) => .ok { p with pending := some (o, some arg) }
      | _ => p.operand spec.operands arg

/-- What is read of all arguments, the value of the last option included. -/
def readArguments (spec : CommandSpec) (args : List String) : Except UsageError Progress := do
  (← args.foldlM (readArgument spec) {}).settle

/-- The command to start a server, from the arguments behind its name. -/
def readServe (args : List String) : Except UsageError Command := do
  let p ← readArguments serveSpec args
  let value (name : String) := p.values.lookup name
  let defaults : ServeOptions := {}
  return .serve {
    config := (value "config").getD defaults.config
    listen := value "listen"
    port := (value "port").bind portOf?
    rules := value "rules"
    adminToken := value "admin-token"
    verbose := (value "verbose").isSome }

/-- The command to evaluate a rule, from the arguments behind its name. -/
def readEval (args : List String) : Except UsageError Command := do
  match (← readArguments evalSpec args).operands with
  | [rule, subject] => return .eval rule subject
  | _ => .error .missingArgument

/-- The command to check a rule file, from the arguments behind its name. The path may be left out. -/
def readCheck (args : List String) : Except UsageError Command := do
  let p ← readArguments checkSpec args
  return .check (p.operands.head?.getD "./rules.yaml") (p.values.lookup "verbose").isSome

/-- The words that name a command, the one that asks for help among them. -/
def commandNames : List String := ["serve", "eval", "check", "help"]

/-- The command that a command line asks for. -/
def read : List String → Except UsageError Command
  | [] => .error .nothingAsked
  | "serve" :: args => readServe args
  | "eval" :: args => readEval args
  | "check" :: args => readCheck args
  | ["help"] => .error .helpAsked
  | ["help", name] => .error (if name ∈ commandNames then .helpAsked else .unknownCommand)
  | "help" :: _ => .error .unknownCommand
  | ["--"] => .error .nothingAsked
  | "--" :: name :: _ => .error (if name ∈ commandNames then .unknownArgument else .unknownCommand)
  | arg :: _ =>
    if arg.toList.head? = some '-' && arg ≠ "-" then
      match readArgument ⟨commonOptions, 0⟩ {} arg with
      | .error e => .error e
      | .ok _ => .error .nothingAsked
    else .error .unknownCommand

end CommandLine

/-! ### Reports -/

/-- Why a command fails: the rule to evaluate has no verdict, the rule file cannot be loaded, or it has rules that do not
    compile. -/
inductive CommandFailure where
  | rule (e : RuleError)
  | ruleFile (e : StoreError)
  | invalidRules (check : RuleCheck) (path : String)

/-- The wording of a failure. -/
def CommandFailure.message : CommandFailure → String
  | rule e => e.message
  | ruleFile e => e.message
  | invalidRules check path => check.complaint path

/-- What a command prints, and why it fails if it does. -/
structure CommandReport where
  lines : List String
  failure : Option CommandFailure

namespace CommandReport

/-- The exit status of a command. -/
def status (r : CommandReport) : Nat := if r.failure.isNone then 0 else 1

/-- The lines printed, each with its end. -/
def output (r : CommandReport) : String := String.join (r.lines.map (· ++ "\n"))

/-- The verdict of a rule on a text. -/
def ofEval (rule subject : String) : CommandReport :=
  match evaluate rule subject with
  | .ok result => ⟨[(Json.object [("result", .bool result), ("rule", .string rule)]).render], none⟩
  | .error e => ⟨[], some (.rule e)⟩

/-- The check of the rules of a file, which is named by its path. -/
def ofRuleFile (path : String) (file : RuleFile) : CommandReport :=
  let check := RuleCheck.ofRules file.rules
  ⟨check.lines, if check.passes then none else some (.invalidRules check path)⟩

/-- The check of the rule file that is found under a path. -/
def ofCheck (path : String) (content : FileContent) : CommandReport :=
  match RuleFile.load content with
  | .error e => ⟨[], some (.ruleFile e)⟩
  | .ok file => ofRuleFile path file

end CommandReport
end TextRules
