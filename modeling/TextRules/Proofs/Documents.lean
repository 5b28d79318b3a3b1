import Mathlib.Tactic.Choose
import TextRules.Proofs.Spelling
import TextRules.Server.Basic

/-!
Documents that are read back. A reader of JSON texts goes through the tokens once and keeps what is open around the
    place that it has reached. It reads a document of texts and flags, in arrays and objects, back from what the
    document is written as, so whoever is sent such a document learns what was put into it.
-/

namespace TextRules

open Text Utf8

namespace Json

/-! ### Reading documents -/

/-- An array or an object around a place inside it: what stands there before the place, latest first, and in an object
    the name that belongs to the place. -/
inductive Around where
  | array (before : List Json)
  | object (before : List (String × Json)) (name : String)

mutual

/-- What the tokens at a place stand for: the whole of which the value there is a part, given what is around it with the
    innermost first, and the tokens behind that whole. -/
def readValue? : List Around → List Token → Option (Json × List Token)
  | around, .null :: rest => readBehind? around .null rest
  | around, .bool b :: rest => readBehind? around (.bool b) rest
  | around, .number (some n) :: rest => readBehind? around (.number n) rest
  | around, .string (some s) :: rest => readBehind? around (.string s) rest
  | around, .beginArray :: .endArray :: rest => readBehind? around (.array []) rest
  | around, .beginArray :: rest => readValue? (.array [] :: around) rest
  | around, .beginObject :: .endObject :: rest => readBehind? around (.object []) rest
  | around, .beginObject :: .string (some name) :: .colon :: rest => readValue? (.object [] name :: around) rest
  | _, _ => none

/-- The same for the tokens behind a value that has been read. -/
def readBehind? : List Around → Json → List Token → Option (Json × List Token)
  | [], x, rest => some (x, rest)
  | .array before :: around, x, .comma :: rest => readValue? (.array (x :: before) :: around) rest
  | .array before :: around, x, .endArray :: rest => readBehind? around (.array (x :: before).reverse) rest
  | .object before name :: around, x, .comma :: .string (some next) :: .colon :: rest =>
    readValue? (.object ((name, x) :: before) next :: around) rest
  | .object before name :: around, x, .endObject :: rest =>
    readBehind? around (.object ((name, x) :: before).reverse) rest
  | _, _, _ => none

end

/-- The document that a text is, if it is one. -/
def read? (text : String) : Option Json :=
  match readValue? [] (tokens (ofText text.toList)) with
  | some (x, []) => some x
  | _ => none

/-! ### Legible documents -/

/-- Whether the tokens are read as the document, in every place. -/
def IsReadAs (ts : List Token) (x : Json) : Prop :=
  ∀ around rest, readValue? around (ts ++ rest) = readBehind? around x rest

/-- Whether a document is read back from what it is written as. -/
def Legible (x : Json) : Prop := ∃ ts, Spells x.chars ts ∧ IsReadAs ts x

/-- A value has a first token, which does not end an array. -/
theorem IsReadAs.exists_first {ts : List Token} {x : Json} (reads : IsReadAs ts x) :
    ∃ first later, ts = first :: later ∧ first ≠ .endArray := by
  have read := reads [] []
  rw [List.append_nil] at read
  rcases ts with _ | ⟨first, later⟩
  · simp [readValue?, readBehind?] at read
  · refine ⟨first, later, rfl, ?_⟩
    rintro rfl
    simp [readValue?, readBehind?] at read

theorem readValue?_beginArray {t : Token} (value : t ≠ .endArray) (around : List Around) (rest : List Token) :
    readValue? around (.beginArray :: t :: rest) = readValue? (.array [] :: around) (t :: rest) := by
  rw [readValue?]
  intro _ same
  exact value (List.cons.inj same).1

/-- The items that are still to come are added to those that were read before. -/
theorem readValue?_items (tokens : Json → List Token) (x : Json) (xs before : List Json) (around : List Around)
    (rest : List Token) (reads : ∀ y ∈ x :: xs, IsReadAs (tokens y) y) :
    readValue? (.array before :: around) ([.comma].intercalate ((x :: xs).map tokens) ++ .endArray :: rest) =
      readBehind? around (.array (before.reverse ++ x :: xs)) rest := by
  induction xs generalizing x before with
  | nil =>
    have last := reads x List.mem_cons_self
    simp [last _ _, readBehind?]
  | cons y ys ih =>
    have first := reads x List.mem_cons_self
    have later := ih y (x :: before) fun z member => reads z (List.mem_cons_of_mem x member)
    simpa [List.intercalate_cons_cons, first _ _, readBehind?] using later

/-- The tokens of a member of an object, of which the value has tokens of its own. -/
def memberTokens (tokens : Json → List Token) (m : String × Json) : List Token :=
  .string (some m.1) :: .colon :: tokens m.2

/-- The members that are still to come are added to those that were read before. -/
theorem readValue?_members (tokens : Json → List Token) (m : String × Json) (ms before : List (String × Json))
    (around : List Around) (rest : List Token) (reads : ∀ n ∈ m :: ms, IsReadAs (tokens n.2) n.2) :
    readValue? (.object before m.1 :: around) ([.comma].intercalate
        (tokens m.2 :: ms.map fun n => .string (some n.1) :: .colon :: tokens n.2) ++ .endObject :: rest) =
      readBehind? around (.object (before.reverse ++ m :: ms)) rest := by
  induction ms generalizing m before with
  | nil =>
    have last := reads m List.mem_cons_self
    simp [last _ _, readBehind?]
  | cons n ms ih =>
    have first := reads m List.mem_cons_self
    have later := ih n (m :: before) fun k member => reads k (List.mem_cons_of_mem m member)
    simpa [List.intercalate_cons_cons, List.intercalate_cons_cons_left, first _ _, readBehind?] using later

namespace Legible

theorem string (s : String) : Legible (.string s) := ⟨_, .string s, fun _ _ => by simp [readValue?]⟩

theorem bool (b : Bool) : Legible (.bool b) := ⟨_, .bool b, fun _ _ => by simp [readValue?]⟩

theorem array {xs : List Json} (each : ∀ x ∈ xs, Legible x) : Legible (.array xs) := by
  choose! tokens spells reads using each
  have spelled := Spells.array id tokens xs spells
  rw [List.map_id] at spelled
  refine ⟨_, spelled, fun around rest => ?_⟩
  rw [List.cons_append, List.append_assoc, List.singleton_append]
  cases xs with
  | nil => simp [readValue?]
  | cons x xs =>
    have items := readValue?_items tokens x xs [] around rest reads
    obtain ⟨first, later, split, value⟩ := (reads x List.mem_cons_self).exists_first
    rw [List.map_cons, split, List.intercalate_cons_cons_left, List.cons_append] at items ⊢
    rw [readValue?_beginArray value, items]
    rfl

theorem object {ms : List (String × Json)} (each : ∀ m ∈ ms, Legible m.2) : Legible (.object ms) := by
  have each := List.forall_mem_map.mpr each
  choose! tokens spells reads using each
  rw [List.forall_mem_map] at spells reads
  have spelled := Spells.object id (fun m => tokens m.2) ms spells
  rw [List.map_id] at spelled
  refine ⟨_, spelled, fun around rest => ?_⟩
  rw [List.cons_append, List.append_assoc, List.singleton_append]
  cases ms with
  | nil => simp [readValue?]
  | cons m ms =>
    have members := readValue?_members tokens m ms [] around rest reads
    rw [List.map_cons, List.intercalate_cons_cons_left, List.intercalate_cons_cons_left]
    simp only [List.cons_append]
    rw [readValue?]
    exact members

/-- An object of two texts. -/
theorem pair (name other s t : String) : Legible (.object [(name, .string s), (other, .string t)]) :=
  .object (by simp [string])

/-- A legible document is read back from what it is written as. -/
theorem read?_render {x : Json} (legible : Legible x) : read? x.render = some x := by
  obtain ⟨ts, spells, reads⟩ := legible
  have read := reads [] []
  rw [List.append_nil] at read
  rw [read?, render, String.toList_ofList, spells.tokens_eq, read]
  simp [readBehind?]

end Legible
end Json

/-! ### Answers -/

namespace Response

/-- An answer of a status whose body is a JSON text, written in the one way of the program and read as a document. -/
structure Tells (answer : Response) (status : Nat) (document : Json) : Prop where
  whole : answer = ⟨status, some "application/json", .text document.render, none, false⟩
  read : Json.read? document.render = some document

/-- An answer whose body is read as an error of a type, with its wording. -/
def TellsError (answer : Response) (status : Nat) (type message : String) : Prop :=
  answer.Tells status (.object [("error", .object [("message", .string message), ("type", .string type)])])

/-- The text that an answer carries, if it carries one. -/
def text? (answer : Response) : Option String :=
  match answer.body with
  | .text s => some s
  | _ => none

theorem Tells.status_eq {answer : Response} {status : Nat} {document : Json} (tells : answer.Tells status document) :
    answer.status = status :=
  congrArg Response.status tells.whole

theorem Tells.text?_eq {answer : Response} {status : Nat} {document : Json} (tells : answer.Tells status document) :
    answer.text? = some document.render :=
  congrArg text? tells.whole

theorem tells_json (status : Nat) {document : Json} (legible : document.Legible) :
    (json status document).Tells status document :=
  ⟨rfl, legible.read?_render⟩

theorem tellsError_json (status : Nat) (type message : String) :
    (json status (ApiError.document type message)).TellsError status type message :=
  tells_json status (.object (by simpa using .pair ..))

end Response
end TextRules
