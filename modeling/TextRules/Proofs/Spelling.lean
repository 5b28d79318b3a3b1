import Mathlib.Tactic.SplitIfs
import TextRules.Json.Document
import TextRules.Json.Record

/-!
What a written document is read as. Characters spell tokens when reading them gives these tokens and then
    whatever the rest of the text gives; so spellings can be put one after the other, and a document is read
    off its parts. Numbers are left out: the digits of a number go on when more digits follow.
-/

namespace TextRules
namespace Json

open Text Utf8

/-! ### Strings -/

theorem hexValue?_hexDigit {n : Nat} (h : n < 16) : hexValue? (hexDigit n) = some n := by
  revert n
  decide

theorem hexUnit?_control {n : Nat} (h : n < 0x20) :
    hexUnit? '0' '0' (hexDigit (n / 16)) (hexDigit (n % 16)) = some n := by
  have zero : hexValue? '0' = some 0 := by decide
  have high := hexValue?_hexDigit (n := n / 16) (by omega)
  have low := hexValue?_hexDigit (n := n % 16) (by omega)
  simp only [hexUnit?, zero, high, low, Option.some.injEq]
  omega

theorem PartialString.pushUnit_control (s : PartialString) {n : Nat} (h : n < 0x20) :
    s.pushUnit n = s.push (Char.ofNat n) := by
  rw [pushUnit, if_neg (by omega), if_neg (by omega)]

theorem readString?_close (s : PartialString) (rest : List Symbol) :
    readString? s (some '"' :: rest) = some (s.text?, rest) := by
  unfold readString?
  simp

theorem readString?_plain (s : PartialString) {c : Char} (rest : List Symbol) (quote : c ≠ '"')
    (backslash : c ≠ '\\') (plain : ¬c.toNat < 0x20) :
    readString? s (some c :: rest) = readString? (s.push c) rest := by
  conv => lhs; unfold readString?
  simp only [quote, backslash, plain, if_false]

theorem readString?_short (s : PartialString) {e c : Char} (rest : List Symbol) (short : simpleEscape? e = some c) :
    readString? s (some '\\' :: some e :: rest) = readString? (s.push c) rest := by
  have letter : e ≠ 'u' := by
    rintro rfl
    simp [simpleEscape?] at short
  conv => lhs; unfold readString?
  simp [letter, short]

theorem readString?_control (s : PartialString) {c : Char} (rest : List Symbol) (control : c.toNat < 0x20) :
    readString? s (ofText ['\\', 'u', '0', '0', hexDigit (c.toNat / 16), hexDigit (c.toNat % 16)] ++ rest) =
      readString? (s.push c) rest := by
  simp [ofText, readString?, hexUnit?_control control, s.pushUnit_control control]

/-- A character, however it is written, is read as itself. -/
theorem readString?_escape (s : PartialString) (c : Char) (rest : List Symbol) :
    readString? s (ofText (escape c) ++ rest) = readString? (s.push c) rest := by
  have ofCode : ∀ n, c.toNat = n → Char.ofNat n = c := by
    rintro n rfl
    exact Char.ofNat_toNat c
  unfold escape
  split_ifs with quote backslash control backspace tab newline formFeed cr
  · exact readString?_short s rest (by rw [quote]; rfl)
  · exact readString?_short s rest (by rw [backslash]; rfl)
  · exact readString?_short s rest (by rw [← ofCode _ backspace]; rfl)
  · exact readString?_short s rest (by rw [tab]; rfl)
  · exact readString?_short s rest (by rw [newline]; rfl)
  · exact readString?_short s rest (by rw [← ofCode _ formFeed]; rfl)
  · exact readString?_short s rest (by rw [cr]; rfl)
  · exact readString?_control s rest control
  · exact readString?_plain s rest quote backslash control

theorem readString?_flatMap_escape (s : PartialString) (cs : List Char) (rest : List Symbol) :
    readString? s (ofText (cs.flatMap escape) ++ rest) = readString? (cs.foldl PartialString.push s) rest := by
  induction cs generalizing s with
  | nil => rfl
  | cons c cs ih =>
    have split : ofText ((c :: cs).flatMap escape) ++ rest =
        ofText (escape c) ++ (ofText (cs.flatMap escape) ++ rest) := by
      simp [ofText]
    rw [split, readString?_escape, ih]
    rfl

theorem PartialString.text?_foldl_push (cs read : List Char) :
    (cs.foldl push ⟨read, none, true⟩).text? = some (String.ofList (read.reverse ++ cs)) := by
  induction cs generalizing read with
  | nil => simp [text?]
  | cons c cs ih =>
    have next := ih (c :: read)
    rw [List.reverse_cons, List.append_assoc] at next
    exact next

theorem readString?_body (cs : List Char) (rest : List Symbol) :
    readString? {} (ofText (cs.flatMap escape) ++ some '"' :: rest) = some (some (String.ofList cs), rest) := by
  rw [readString?_flatMap_escape, readString?_close, PartialString.text?_foldl_push cs []]
  rfl

/-! ### Spellings -/

/-- The characters are read as the tokens, whatever follows them. -/
def Spells (cs : List Char) (ts : List Token) : Prop :=
  ∀ rest : List Symbol, tokens (ofText cs ++ rest) = ts ++ tokens rest

namespace Spells

theorem nil : Spells [] [] := fun _ => rfl

theorem append {cs ds : List Char} {ts us : List Token} (first : Spells cs ts) (second : Spells ds us) :
    Spells (cs ++ ds) (ts ++ us) := by
  intro rest
  have split : ofText (cs ++ ds) ++ rest = ofText cs ++ (ofText ds ++ rest) := by simp [ofText]
  rw [split, first, second, List.append_assoc]

theorem cons {c : Char} {t : Token} {cs : List Char} {ts : List Token} (first : Spells [c] [t])
    (second : Spells cs ts) : Spells (c :: cs) (t :: ts) :=
  first.append second

/-- A text spells its tokens when nothing follows. -/
theorem tokens_eq {cs : List Char} {ts : List Token} (h : Spells cs ts) : tokens (ofText cs) = ts := by
  have whole := h []
  rwa [List.append_nil, tokens, List.append_nil] at whole

theorem punctuation {c : Char} {t : Token} (h : punctuation? c = some t) : Spells [c] [t] := by
  intro rest
  have visible : isSpace c = false := by
    unfold punctuation? at h
    grind [isSpace]
  simp [ofText, tokens, visible, h]

theorem longer {c : Char} {cs : List Char} {t : Token} (visible : isSpace c = false)
    (long : punctuation? c = none) (h : ∀ rest, readLonger? c (ofText cs ++ rest) = some (t, rest)) :
    Spells (c :: cs) [t] := by
  intro rest
  have read := h rest
  show tokens (some c :: (ofText cs ++ rest)) = t :: tokens rest
  rw [tokens]
  simp only [visible, long]
  grind

theorem quoted (cs : List Char) : Spells (quoted cs) [.string (some (String.ofList cs))] := by
  show Spells ('"' :: (cs.flatMap escape ++ ['"'])) _
  refine longer (by decide) (by decide) ?_
  intro rest
  have split : ofText (cs.flatMap escape ++ ['"']) ++ rest = ofText (cs.flatMap escape) ++ some '"' :: rest := by
    simp [ofText]
  rw [split, readLonger?, if_pos rfl, readString?_body]
  rfl

theorem null : Spells Json.null.chars [.null] := by
  refine longer (by decide) (by decide) ?_
  intro rest
  simp [readLonger?, isDigit, dropWord?, ofText]

theorem bool (b : Bool) : Spells (Json.bool b).chars [.bool b] := by
  cases b <;>
  · refine longer (by decide) (by decide) ?_
    intro rest
    simp [readLonger?, isDigit, dropWord?, ofText]

theorem string (s : String) : Spells (Json.string s).chars [.string (some s)] := by
  have whole := quoted s.toList
  rwa [String.ofList_toList] at whole

/-- Pieces with commas between them. -/
theorem intercalate {α : Type} (chars : α → List Char) (tokens : α → List Token) (xs : List α)
    (each : ∀ x ∈ xs, Spells (chars x) (tokens x)) :
    Spells ([','].intercalate (xs.map chars)) ([.comma].intercalate (xs.map tokens)) := by
  induction xs with
  | nil => exact nil
  | cons x xs ih =>
    have first := each x List.mem_cons_self
    have rest := ih fun y member => each y (List.mem_cons_of_mem x member)
    cases xs with
    | nil => simpa using first
    | cons y ys =>
      simpa [List.intercalate_cons_cons] using first.append (cons (punctuation rfl) rest)

end Spells

/-! ### Arrays and objects -/

theorem itemsChars_eq (xs : List Json) : itemsChars xs = [','].intercalate (xs.map chars) := by
  induction xs with
  | nil => rfl
  | cons x xs ih =>
    cases xs with
    | nil => simp [itemsChars]
    | cons y ys => simp [itemsChars, ih, List.intercalate_cons_cons]

/-- A member of an object: its name, the colon and its value. -/
def memberChars (member : String × Json) : List Char := quoted member.1.toList ++ ':' :: member.2.chars

theorem membersChars_eq (ms : List (String × Json)) : membersChars ms = [','].intercalate (ms.map memberChars) := by
  induction ms with
  | nil => rfl
  | cons m ms ih =>
    cases ms with
    | nil => simp [membersChars, memberChars]
    | cons next ms => simp [membersChars, memberChars, ih, List.intercalate_cons_cons]

namespace Spells

theorem array {α : Type} (json : α → Json) (tokens : α → List Token) (xs : List α)
    (each : ∀ x ∈ xs, Spells (json x).chars (tokens x)) :
    Spells (Json.array (xs.map json)).chars (.beginArray :: ([.comma].intercalate (xs.map tokens) ++ [.endArray])) := by
  have inside := intercalate (chars ∘ json) tokens xs each
  rw [chars, itemsChars_eq, List.map_map, List.cons_append]
  exact cons (punctuation rfl) (inside.append (punctuation rfl))

theorem object {α : Type} (member : α → String × Json) (tokens : α → List Token) (xs : List α)
    (each : ∀ x ∈ xs, Spells (member x).2.chars (tokens x)) :
    Spells (Json.object (xs.map member)).chars
      (.beginObject :: ([.comma].intercalate (xs.map fun x => .string (some (member x).1) :: .colon :: tokens x) ++
        [.endObject])) := by
  have inside := intercalate (memberChars ∘ member) (fun x => .string (some (member x).1) :: .colon :: tokens x) xs
    fun x listed => (string (member x).1).append (cons (punctuation rfl) (each x listed))
  rw [chars, membersChars_eq, List.map_map, List.cons_append]
  exact cons (punctuation rfl) (inside.append (punctuation rfl))

end Spells
end Json
end TextRules
