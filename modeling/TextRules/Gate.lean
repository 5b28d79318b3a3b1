import TextRules.Text.Basic

/-!
The admin gate: who may change the rules. A request is let through if its first Authorization value presents
    the configured token as a bearer token. Without a token configured nobody is let through, and an empty
    token counts as none.
-/

namespace TextRules

open Text

/-- Why a request is not let through. -/
inductive GateError where
  | notConfigured
  | missingToken
  | invalidToken
  deriving DecidableEq

/-- The wording of a refusal. -/
def GateError.message : GateError → String
  | notConfigured => "Rule administration is disabled: no admin token configured"
  | missingToken => "Missing bearer token"
  | invalidToken => "Invalid admin token"

/-- The gate with its token. An empty token is none. -/
structure Gate where
  token : Option String
  token_ne : token ≠ some ""

namespace Gate

/-- The gate with the token that is configured, if one is. -/
def ofToken (token : Option String) : Gate where
  token := token.filter (· ≠ "")
  token_ne := by cases token <;> simp [Option.filter]

/-- Whether anybody can be let through. -/
def isEnabled (gate : Gate) : Bool := gate.token.isSome

/-- A gate in words, which keep its token secret. -/
def describe (gate : Gate) : String :=
  "AdminGate \x7b enabled: " ++ (if gate.isEnabled then "true" else "false") ++ " \x7d"

/-- The characters of a header value, if all of them are visible ASCII, spaces or tabs. -/
def visibleText? (value : List UInt8) : Option (List Char) :=
  if value.all fun b => (0x20 ≤ b && b < 0x7F) || b == 0x09 then some (value.map fun b => Char.ofNat b.toNat)
  else none

/-- The token that an Authorization value presents. -/
def bearerToken? (value : List UInt8) : Option (List Char) :=
  match visibleText? value with
  | none => none
  | some text =>
    match text.dropWhile (· ≠ ' ') with
    | [] => none
    | _ :: rest =>
      let token := trimChars rest
      if (text.takeWhile (· ≠ ' ')).map Char.toLower = "bearer".toList ∧ token ≠ [] then some token else none

/-- Whether a request with the given Authorization values is let through. -/
def authorize (gate : Gate) (values : List (List UInt8)) : Except GateError Unit :=
  match gate.token with
  | none => .error .notConfigured
  | some expected =>
    match values.head?.bind bearerToken? with
    | none => .error .missingToken
    | some presented => if presented = expected.toList then .ok () else .error .invalidToken

end Gate
end TextRules
