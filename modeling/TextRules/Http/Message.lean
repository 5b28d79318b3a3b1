import TextRules.Gate
import TextRules.Json.Record
import TextRules.Telemetry

/-!
Requests and responses. Header names are compared without regard to case, and of several headers of one name the
    first counts. A media type is a type and a subtype with a slash between, and parameters after semicolons; one with
    a character out of place is no media type at all. A request's JSON body is looked at in this order: is it
    announced as JSON, is it short enough, is it JSON, is it the record asked for. Text behind the record is not
    looked at.
-/

namespace TextRules

/-! ### Media types -/

namespace MediaType

open Text

/-- A character of which names and unquoted values consist. -/
def isTokenChar (c : Char) : Bool :=
  c.isAlphanum || "!#$%&'*+-.^_`|~".toList.contains c

/-- A character that may stand between quotes: none that is a control character. -/
def isQuotedChar (c : Char) : Bool := c.toNat > 31 && c.toNat ≠ 127

/-- A name and what follows it: characters up to the first that belongs to no name. -/
def readName (cs : List Char) : List Char × List Char := (cs.takeWhile isTokenChar, cs.dropWhile isTokenChar)

/-- What follows the semicolon after a quoted value, spaces apart; nothing if the text ends there. -/
def afterQuoted? (cs : List Char) : Option (List Char) :=
  match cs.dropWhile (· = ' ') with
  | [] => some []
  | ';' :: rest => some rest
  | _ => none

/-- What follows a parameter's value and the semicolon after it; nothing if the text ends there. Between quotes
    there is at least one character, and the first may itself be a quote. -/
def afterValue? : List Char → Option (List Char)
  | ['"'] => none
  | '"' :: c :: cs =>
    match cs.dropWhile fun c => isQuotedChar c && c ≠ '"' with
    | '"' :: rest => if isQuotedChar c then afterQuoted? rest else none
    | _ => none
  | cs =>
    let (value, rest) := readName cs
    match rest with
    | [] => some []
    | ';' :: rest => if value = [] then none else some rest
    | _ => none

/-- Whether a text is a list of parameters. The number bounds how many there can be. -/
def areParameters : Nat → List Char → Bool
  | _, [] => true
  | 0, _ => false
  | bound + 1, cs =>
    match cs.dropWhile (· = ' ') with
    | [] => true
    | cs =>
      let (name, rest) := readName cs
      match rest with
      | '=' :: value => name ≠ [] && ((afterValue? value).map (areParameters bound)).getD false
      | _ => false

/-- A subtype cut at its last plus, which is not its first character. -/
def cutSuffix (subtype : List Char) : List Char × Option (List Char) :=
  let suffix := (subtype.reverse.takeWhile (· ≠ '+')).reverse
  let front := subtype.take (subtype.length - suffix.length - 1)
  if suffix.length + 1 < subtype.length then (front, some suffix) else (subtype, none)

/-- Whether a Content-Type value announces JSON. -/
def isJson (value : List UInt8) : Bool :=
  match Gate.visibleText? value with
  | none => false
  | some text =>
    let (type, rest) := readName (text.map Char.toLower)
    match rest with
    | '/' :: rest =>
      let (subtype, rest) := readName rest
      let parametersOk :=
        match rest with
        | [] => true
        | ';' :: parameters => subtype ≠ [] && areParameters (parameters.length + 1) parameters
        | _ => false
      let (front, suffix) := cutSuffix subtype
      parametersOk && type = "application".toList &&
        (front = "json".toList || suffix = some "json".toList)
    | _ => false

end MediaType

/-! ### Messages -/

/-- A request. The body is empty where there is none. -/
structure Request where
  method : String
  /-- The path, perhaps with a scheme and an authority before it, and with a query and a fragment behind it. -/
  target : String
  headers : List (String × List UInt8)
  body : List UInt8

/-- What a response carries. -/
inductive ResponseBody where
  | text (s : String)
  /-- An error of type `invalid_request_error`, whose wording is left open. -/
  | invalidRequest
  /-- The series of a collector that was touched. -/
  | exposition (x : Exposition)

/-- A response. Every response allows all origins; one to a preflight request allows all methods and headers
    as well. -/
structure Response where
  status : Nat
  contentType : Option String
  body : ResponseBody
  allow : Option String := none
  preflight : Bool := false

/-- Why a body is not taken. -/
inductive BodyRejection where
  | notJson
  | tooLong
  | malformed
  | mismatch
  deriving DecidableEq

/-- The status with which a body is rejected. -/
def BodyRejection.status : BodyRejection → Nat
  | notJson => 415
  | tooLong => 413
  | malformed => 400
  | mismatch => 422

namespace Request

/-- The values of all headers of a name, given in lower case. -/
def headerValues (r : Request) (name : String) : List (List UInt8) :=
  (r.headers.filter fun h => h.1.toLower == name).map (·.2)

/-- A character of which the scheme of a target consists. -/
def isSchemeChar (c : Char) : Bool := c.isAlphanum || "+-.~".toList.contains c

/-- A character that begins the query or the fragment of a target. -/
def endsPath (c : Char) : Bool := c == '?' || c == '#'

/-- What follows the scheme and the authority of a target, if it has them. -/
def afterAuthority? (target : List Char) : Option (List Char) :=
  match target.dropWhile isSchemeChar with
  | ':' :: '/' :: '/' :: rest => some (rest.dropWhile fun c => c ≠ '/' && !endsPath c)
  | _ => none

/-- The path: what comes before the query and the fragment, and behind the authority where there is one. A target
    that is no more than an authority has none. -/
def path (r : Request) : String :=
  let target := r.target.toList
  let local? := if target.head? = some '/' then some target else afterAuthority? target
  String.ofList ((local?.getD []).takeWhile fun c => !endsPath c)

/-- The length that the request announces for its body. -/
def announcedLength? (r : Request) : Option Nat :=
  match (r.headerValues "content-length").head?.bind Gate.visibleText? with
  | none => none
  | some text =>
    let digits := if text.head? = some '+' then text.drop 1 else text
    if !digits.isEmpty && digits.all Text.isDigit && Text.decimalValue digits < Nat.pow 2 64 then
      some (Text.decimalValue digits)
    else none

/-- The greatest length at which a body is buffered, whatever limit is configured. -/
def bufferLimit : Nat := 2097152

/-- The record that the body holds. -/
def readBody (r : Request) (limit : Nat) (schema : Json.Schema) : Except BodyRejection Json.Found :=
  let announced := (r.announcedLength?).getD limit
  if !((r.headerValues "content-type").head?.map MediaType.isJson).getD false then .error .notJson
  else if r.body.length > min (min limit announced) bufferLimit then .error .tooLong
  else
    match Json.readRecord schema (Json.tokens (Utf8.decode r.body)) with
    | .ok (found, _) => .ok found
    | .error .malformed => .error .malformed
    | .error .mismatch => .error .mismatch

end Request

namespace Response

/-- A response with a text in it. -/
def plain (status : Nat) (text : String) : Response :=
  ⟨status, some "text/plain; charset=utf-8", .text text, none, false⟩

/-- A response with a JSON document in it. -/
def json (status : Nat) (document : Json) : Response :=
  ⟨status, some "application/json", .text document.render, none, false⟩

/-- A response with nothing in it. -/
def bare (status : Nat) : Response := ⟨status, none, .text "", none, false⟩

/-- The response to a request that asks for everything but the body. -/
def withoutBody (r : Response) : Response := { r with body := .text "" }

/-- The headers by which a response allows other origins. -/
def corsHeaders (r : Response) : List (String × String) :=
  [("access-control-allow-origin", "*"),
    ("vary", "origin, access-control-request-method, access-control-request-headers")] ++
  if r.preflight then [("access-control-allow-methods", "*"), ("access-control-allow-headers", "*")] else []

end Response
end TextRules
