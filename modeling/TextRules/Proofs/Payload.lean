import TextRules.Classification
import TextRules.Proofs.Spelling

/-!
Written classifications are read back. A record that is written from what was found in it is found again, as
    long as every member has its type, none is there twice and none is missing that has to be there. An
    outcome is written from just the members it has, so it comes back with these and no others.
-/

namespace TextRules

open Text Utf8

/-! ### Records -/

namespace Json

/-- What a member was found to hold, as a document. -/
def Scalar.json : Scalar → Json
  | text s => .string s
  | flag b => .bool b
  | absent => .null

/-- The token of what a member was found to hold. -/
def Scalar.token : Scalar → Token
  | text s => .string (some s)
  | flag b => .bool b
  | absent => .null

theorem Scalar.spells (scalar : Scalar) : Spells scalar.json.chars [scalar.token] :=
  match scalar with
  | text s => .string s
  | flag b => .bool b
  | absent => .null

namespace Found

/-- The object of the members found. -/
def json (found : Found) : Json := .object (found.map fun m => (m.1, m.2.json))

/-- The tokens of one member. -/
def memberTokens (m : String × Scalar) : List Token := [.string (some m.1), .colon, m.2.token]

/-- The tokens of the object of the members found. -/
def tokens (found : Found) : List Token :=
  .beginObject :: ([.comma].intercalate (found.map memberTokens) ++ [.endObject])

/-- Whether a member is of a record and has its type there. -/
def Suits (schema : Schema) (m : String × Scalar) : Prop :=
  ∃ type, schema.lookup m.1 = some type ∧ type.read m.2.token = .ok m.2

/-- Whether a record can have just these members. -/
structure Fits (schema : Schema) (found : Found) : Prop where
  suit : ∀ m ∈ found, Suits schema m
  once : (found.map Prod.fst).Nodup
  complete : isComplete schema found = true

theorem spells (found : Found) : Spells found.json.chars found.tokens :=
  .object (fun m : String × Scalar => (m.1, m.2.json)) (fun m => [m.2.token]) found fun m _ => m.2.spells

theorem lookup_eq_none {found : Found} {name : String} (new : name ∉ found.map Prod.fst) :
    found.lookup name = none := by
  rw [List.lookup_eq_none_iff]
  intro m member
  have other : name ≠ m.1 := by
    rintro rfl
    exact new (List.mem_map_of_mem member)
  simpa using other

theorem new_of_nodup {before found : Found} {m : String × Scalar}
    (once : ((before ++ m :: found).map Prod.fst).Nodup) : m.1 ∉ before.map Prod.fst := by
  intro earlier
  rw [List.map_append, List.nodup_append] at once
  exact once.2.2 m.1 earlier m.1 List.mem_cons_self rfl

end Found

theorem readMember_memberTokens {schema : Schema} {found : Found} {m : String × Scalar}
    (suits : Found.Suits schema m) (new : m.1 ∉ found.map Prod.fst) (rest : List Token) :
    readMember schema found (Found.memberTokens m ++ rest) = .ok (found ++ [m], rest) := by
  obtain ⟨type, listed, typed⟩ := suits
  simp [Found.memberTokens, readMember, listed, Found.lookup_eq_none new, typed]

theorem readMembers_of_readMember {schema : Schema} {found found' : Found} {ts rest : List Token} :
    readMember schema found ts = .ok (found', rest) → readMembers schema found ts =
      match rest with
      | .comma :: rest => readMembers schema found' rest
      | .endObject :: rest => .ok (found', rest)
      | _ => .error .malformed := by
  intro h
  conv => lhs; rw [readMembers]
  split
  case h_1 failed =>
    rw [h] at failed
    cases failed
  case h_2 read =>
    rw [h] at read
    cases read
    rcases rest with _ | ⟨t, rest⟩
    · rfl
    · cases t <;> rfl

/-- The members that are still to come are added to those that were found before. -/
theorem readMembers_intercalate {schema : Schema} (before : Found) (m : String × Scalar) (found : Found)
    (rest : List Token) (suit : ∀ n ∈ m :: found, Found.Suits schema n)
    (once : ((before ++ m :: found).map Prod.fst).Nodup) :
    readMembers schema before
        ([.comma].intercalate ((m :: found).map Found.memberTokens) ++ .endObject :: rest) =
      .ok (before ++ m :: found, rest) := by
  induction found generalizing before m with
  | nil =>
    have first := readMember_memberTokens (suit m List.mem_cons_self) (Found.new_of_nodup once) (.endObject :: rest)
    simpa using readMembers_of_readMember first
  | cons n found ih =>
    have first := readMember_memberTokens (suit m List.mem_cons_self) (Found.new_of_nodup once)
      (.comma :: ([.comma].intercalate ((n :: found).map Found.memberTokens) ++ .endObject :: rest))
    have later := ih (before ++ [m]) n (fun x member => suit x (List.mem_cons_of_mem m member)) (by simpa using once)
    have read := (readMembers_of_readMember first).trans later
    simpa [List.intercalate_cons_cons] using read

/-- A record that may have the members is found to have them. -/
theorem readRecord_tokens {schema : Schema} {found : Found} (fits : found.Fits schema) (rest : List Token) :
    readRecord schema (found.tokens ++ rest) = .ok (found, rest) := by
  cases found with
  | nil => simp [Found.tokens, readRecord, fits.complete]
  | cons m found =>
    have read := readMembers_intercalate [] m found rest fits.suit fits.once
    rw [List.map_cons, Found.memberTokens, List.intercalate_cons_cons_left] at read
    rw [Found.tokens, List.map_cons, Found.memberTokens, List.intercalate_cons_cons_left]
    simp only [List.cons_append, List.append_assoc, List.nil_append] at read ⊢
    simp only [readRecord, read, fits.complete, if_true]

end Json

/-! ### Outcomes -/

namespace Outcome

/-- The members that an outcome has. -/
def found (o : Outcome) : Json.Found :=
  ("rule", .text o.rule) ::
    ((o.result.map fun b => ("result", .flag b)).toList ++ (o.error.map fun s => ("error", .text s)).toList)

theorem json_found (o : Outcome) : o.found.json = o.toJson := by
  rcases o with ⟨rule, _ | result, _ | error⟩ <;> rfl

theorem fits (o : Outcome) : o.found.Fits schema := by
  have rule : Json.Found.Suits schema ("rule", .text o.rule) := ⟨.text, rfl, rfl⟩
  have result : ∀ b, Json.Found.Suits schema ("result", .flag b) := fun _ => ⟨.optionalFlag, rfl, rfl⟩
  have error : ∀ s, Json.Found.Suits schema ("error", .text s) := fun _ => ⟨.optionalText, rfl, rfl⟩
  rcases o with ⟨text, _ | verdict, _ | message⟩
  all_goals exact ⟨by simp [found, rule, result, error], by simp [found], rfl⟩

theorem ofTokens?_found (o : Outcome) (rest : List Json.Token) :
    ofTokens? (o.found.tokens ++ rest) = some (o, rest) := by
  rw [ofTokens?, Json.readRecord_tokens o.fits]
  rcases o with ⟨rule, _ | result, _ | error⟩ <;> rfl

end Outcome

/-! ### Classifications -/

namespace Classification

theorem outcomesOfTokens?_of_ofTokens? {ts rest : List Json.Token} {o : Outcome} :
    Outcome.ofTokens? ts = some (o, rest) → outcomesOfTokens? ts =
      match rest with
      | .comma :: rest => (outcomesOfTokens? rest).map (o :: ·)
      | [.endArray] => some [o]
      | _ => none := by
  intro h
  conv => lhs; rw [outcomesOfTokens?]
  split
  case h_1 failed =>
    rw [h] at failed
    cases failed
  case h_2 read =>
    rw [h] at read
    cases read
    rcases rest with _ | ⟨t, rest⟩
    · rfl
    · cases t <;> cases rest <;> rfl

theorem outcomesOfTokens?_intercalate (o : Outcome) (os : List Outcome) :
    outcomesOfTokens? ([.comma].intercalate ((o :: os).map fun o => o.found.tokens) ++ [.endArray]) =
      some (o :: os) := by
  induction os generalizing o with
  | nil =>
    have last := o.ofTokens?_found [.endArray]
    simpa using outcomesOfTokens?_of_ofTokens? last
  | cons next os ih =>
    have first := o.ofTokens?_found
      (.comma :: ([.comma].intercalate ((next :: os).map fun o => o.found.tokens) ++ [.endArray]))
    have read := outcomesOfTokens?_of_ofTokens? first
    simp only [ih next] at read
    simpa [List.intercalate_cons_cons] using read

/-- The tokens of a written classification. -/
theorem tokens_payload (c : Classification) :
    Json.tokens (ofText c.payload.toList) =
      .beginArray :: ([.comma].intercalate (c.outcomes.map fun o => o.found.tokens) ++ [.endArray]) := by
  have whole := Json.Spells.array Outcome.toJson (fun o => o.found.tokens) c.outcomes fun o _ => by
    rw [← o.json_found]
    exact o.found.spells
  rw [payload, Json.render, String.toList_ofList]
  exact whole.tokens_eq

/-- What a classification is written as is read as that classification. -/
theorem parse?_payload (c : Classification) : parse? c.payload = some c := by
  rw [parse?, tokens_payload]
  rcases c with ⟨_ | ⟨o, os⟩⟩
  · rfl
  · have read := outcomesOfTokens?_intercalate o os
    rw [List.map_cons, Json.Found.tokens, List.intercalate_cons_cons_left, List.cons_append] at read ⊢
    simp only [read, Option.map_some]

end Classification
end TextRules
