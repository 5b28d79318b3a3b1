import TextRules.Json.Token

/-!
Records read from tokens. A record has members of known names, each a text or an optional text or flag. It is
    read from an object, in any order and with other members passed over, or from an array in the order of the
    members. Of several faults the one met first from left to right is reported, and it is one of two kinds:
    the text is not JSON, or it is JSON so far but not the record.
-/

namespace TextRules
namespace Json

/-- Why a text is not the record asked for. -/
inductive Fault where
  | malformed
  /-- A value has the wrong type, or a member is missing or given twice. -/
  | mismatch
  deriving DecidableEq

/-- What a member may hold. -/
inductive MemberType where
  | text
  | optionalText
  | optionalFlag
  deriving DecidableEq

/-- What a member was found to hold. -/
inductive Scalar where
  | text (s : String)
  | flag (b : Bool)
  | absent
  deriving DecidableEq

/-- The members of a record, with their names. -/
abbrev Schema := List (String × MemberType)

/-- The members found, with their names. -/
abbrev Found := List (String × Scalar)

namespace Found

/-- The text found under a name. -/
def text? (found : Found) (name : String) : Option String :=
  match found.lookup name with
  | some (.text s) => some s
  | _ => none

/-- The flag found under a name. -/
def flag? (found : Found) (name : String) : Option Bool :=
  match found.lookup name with
  | some (.flag b) => some b
  | _ => none

end Found

namespace MemberType

/-- Whether a member may be left out. -/
def isOptional : MemberType → Bool
  | text => false
  | _ => true

/-- What a member holds whose value begins with a token. The types that are wrong are known at that token. -/
def read (type : MemberType) : Token → Except Fault Scalar
  | .string (some s) => if type = optionalFlag then .error .mismatch else .ok (.text s)
  | .bool b => if type = optionalFlag then .ok (.flag b) else .error .mismatch
  | .null => if type.isOptional then .ok .absent else .error .mismatch
  | .number (some _) | .beginArray | .beginObject => .error .mismatch
  | .string none | .number none | .endArray | .endObject | .comma | .colon | .unreadable =>
    .error .malformed

end MemberType

/-! ### Passing over a value -/

/-- An array or an object that is not yet closed. -/
inductive Open where
  | array
  | object
  deriving DecidableEq

/-- What may come next inside a value. -/
inductive Place where
  | value
  | valueOrEnd
  | memberName
  | memberNameOrEnd
  | colon
  | afterValue
  deriving DecidableEq

/-- Whether a token is a value by itself. -/
def Token.isScalar : Token → Bool
  | .null | .bool _ | .string _ | .number _ => true
  | _ => false

/-- What is open and comes next after the end of an array or object, if that is the innermost. -/
def close? (ended : Open) : List Open → Option (List Open × Place)
  | [] => none
  | innermost :: opened => if innermost = ended then some (opened, .afterValue) else none

/-- What is open and comes next after a token; there is none if the token may not stand there. -/
def stepOver? (opened : List Open) : Place → Token → Option (List Open × Place)
  | .valueOrEnd, .endArray | .afterValue, .endArray => close? .array opened
  | .memberNameOrEnd, .endObject | .afterValue, .endObject => close? .object opened
  | .afterValue, .comma => opened.head?.map fun
    | .array => (opened, .value)
    | .object => (opened, .memberName)
  | .memberName, .string _ | .memberNameOrEnd, .string _ => some (opened, .colon)
  | .colon, .colon => some (opened, .value)
  | .value, .beginArray | .valueOrEnd, .beginArray => some (.array :: opened, .valueOrEnd)
  | .value, .beginObject | .valueOrEnd, .beginObject => some (.object :: opened, .memberNameOrEnd)
  | .value, t | .valueOrEnd, t => if t.isScalar then some (opened, .afterValue) else none
  | _, _ => none

/-- What follows a value of any kind, of which the given arrays and objects are still open. -/
def passOver? (opened : List Open) (place : Place) : List Token → Option (List Token)
  | [] => none
  | t :: ts =>
    match stepOver? opened place t with
    | none => none
    | some ([], .afterValue) => some ts
    | some (opened, place) => passOver? opened place ts

/-- What follows a value of any kind. -/
def skipValue? (ts : List Token) : Option (List Token) := passOver? [] .value ts

theorem passOver?_length {opened : List Open} {place : Place} {ts rest : List Token}
    (h : passOver? opened place ts = some rest) : rest.length < ts.length := by
  induction ts generalizing opened place with
  | nil => cases h
  | cons t ts ih =>
    unfold passOver? at h
    split at h
    · cases h
    · cases h
      simp
    · exact Nat.lt_succ_of_lt (ih h)

/-! ### Objects -/

/-- One member of an object, added to those found before, and what follows it. -/
def readMember (schema : Schema) (found : Found) : List Token → Except Fault (Found × List Token)
  | .string (some name) :: rest =>
    match schema.lookup name with
    | some type =>
      if (found.lookup name).isSome then .error .mismatch
      else
        match rest with
        | .colon :: t :: rest =>
          match type.read t with
          | .ok scalar => .ok (found ++ [(name, scalar)], rest)
          | .error fault => .error fault
        | _ => .error .malformed
    | none =>
      match rest with
      | .colon :: rest =>
        match skipValue? rest with
        | some rest => .ok (found, rest)
        | none => .error .malformed
      | _ => .error .malformed
  | _ => .error .malformed

theorem readMember_length {schema : Schema} {found found' : Found} {ts rest : List Token}
    (h : readMember schema found ts = .ok (found', rest)) : rest.length < ts.length := by
  unfold readMember at h
  split at h
  · split at h
    · split at h
      · cases h
      · split at h
        · split at h
          · cases h
            simp only [List.length_cons]
            omega
          · cases h
        · cases h
    · split at h
      · split at h
        · rename_i skipped
          cases h
          have := passOver?_length skipped
          simp only [List.length_cons]
          omega
        · cases h
      · cases h
  · cases h

/-- The members of an object up to its end, and what follows it. -/
def readMembers (schema : Schema) (found : Found) (ts : List Token) : Except Fault (Found × List Token) :=
  match _h : readMember schema found ts with
  | .error fault => .error fault
  | .ok (found, rest) =>
    match _hr : rest with
    | .comma :: rest => readMembers schema found rest
    | .endObject :: rest => .ok (found, rest)
    | _ => .error .malformed
termination_by ts.length
decreasing_by
  subst _hr
  exact Nat.lt_of_succ_lt (readMember_length _h)

theorem readMembers_length {schema : Schema} {found found' : Found} {ts rest : List Token}
    (h : readMembers schema found ts = .ok (found', rest)) : rest.length < ts.length := by
  fun_induction readMembers schema found ts with
  | case1 found ts fault read => cases h
  | case2 found ts found₁ after read _ ih =>
    exact Nat.lt_trans (ih h) (Nat.lt_of_succ_lt (readMember_length read))
  | case3 found ts found₁ after read =>
    cases h
    exact Nat.lt_of_succ_lt (readMember_length read)
  | case4 => cases h

/-- Whether every member that may not be left out was found. -/
def isComplete (schema : Schema) (found : Found) : Bool :=
  schema.all fun (name, type) => type.isOptional || (found.lookup name).isSome

/-! ### Arrays -/

/-- The token with which the next element begins, behind a comma unless it is the first, and what follows. -/
def nextElement? : Bool → List Token → Option (Token × List Token)
  | true, t :: rest => some (t, rest)
  | false, .comma :: t :: rest => some (t, rest)
  | _, _ => none

/-- The members in order up to the end of an array, and what follows it. Optional members may be missing at
    the end. `first` tells that no element was read yet. -/
def readElements (first : Bool) : Schema → List Token → Except Fault (Found × List Token)
  | [], .endArray :: rest => .ok ([], rest)
  | [], _ => .error .malformed
  | (_, type) :: schema, .endArray :: rest =>
    if type.isOptional then readElements first schema (.endArray :: rest) else .error .mismatch
  | (name, type) :: schema, ts =>
    match nextElement? first ts with
    | none => .error .malformed
    | some (t, rest) =>
      match type.read t with
      | .error fault => .error fault
      | .ok scalar =>
        match readElements false schema rest with
        | .ok (found, rest) => .ok ((name, scalar) :: found, rest)
        | .error fault => .error fault

theorem nextElement?_length {first : Bool} {ts rest : List Token} {t : Token}
    (h : nextElement? first ts = some (t, rest)) : rest.length < ts.length := by
  unfold nextElement? at h
  split at h
  · cases h
    simp
  · cases h
    simp only [List.length_cons]
    omega
  · cases h

theorem readElements_length {first : Bool} {schema : Schema} {found : Found} {ts rest : List Token}
    (h : readElements first schema ts = .ok (found, rest)) : rest.length < ts.length := by
  induction schema generalizing first found ts rest with
  | nil =>
    unfold readElements at h
    split at h
    · cases h
      simp
    · cases h
    · contradiction
    · contradiction
  | cons member schema ih =>
    unfold readElements at h
    split at h
    · contradiction
    · contradiction
    · rename_i same
      cases same
      split at h
      · exact ih h
      · cases h
    · rename_i same _
      cases same
      split at h
      · cases h
      · rename_i t after next
        split at h
        · cases h
        · split at h
          · rename_i read
            cases h
            exact Nat.lt_trans (ih read) (nextElement?_length next)
          · cases h

/-! ### Records -/

/-- The record at the front of a list of tokens, and what follows it. -/
def readRecord (schema : Schema) : List Token → Except Fault (Found × List Token)
  | .beginObject :: ts =>
    let members : Except Fault (Found × List Token) :=
      match ts with
      | .endObject :: rest => .ok ([], rest)
      | _ => readMembers schema [] ts
    match members with
    | .ok (found, rest) => if isComplete schema found then .ok (found, rest) else .error .mismatch
    | .error fault => .error fault
  | .beginArray :: ts => readElements true schema ts
  | .null :: _ | .bool _ :: _ | .string (some _) :: _ | .number (some _) :: _ => .error .mismatch
  | _ => .error .malformed

theorem readRecord_length {schema : Schema} {found : Found} {ts rest : List Token}
    (h : readRecord schema ts = .ok (found, rest)) : rest.length < ts.length := by
  unfold readRecord at h
  split at h
  · rename_i ts
    dsimp only at h
    split at h
    · rename_i found' after read
      split at h
      · cases h
        split at read
        · cases read
          simp only [List.length_cons]
          omega
        · exact Nat.lt_succ_of_lt (readMembers_length read)
      · cases h
    · cases h
  · exact Nat.lt_succ_of_lt (readElements_length h)
  all_goals cases h

/-- The name written as a text, or as the only member of an object, with the value null. -/
def readName? : List Token → Option String
  | [.string (some name)] => some name
  | [.beginObject, .string (some name), .colon, .null, .endObject] => some name
  | _ => none

end Json
end TextRules
