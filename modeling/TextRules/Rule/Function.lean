import Std.Data.TreeMap
import TextRules.Json.Record
import TextRules.Number.Basic
import TextRules.Rule.Value

/-!
The five functions of the rule language. Each computes a value from the call's argument and the text that the
    rule is applied to; lengths and frequencies are measured in code points. Occurrences are counted from the left
    without overlap, and the empty text occurs nowhere. The table of frequencies is filled from left to right;
    beside it a map gives the place of each character in the table, so a repeated character is counted where it
    already stands.
-/

namespace TextRules

/-! ### Occurrences -/

namespace Occurrences

/-- Occurrences of `needle` from a place on, the first `skip` characters belonging to one already counted. -/
def countFrom (needle : List Char) : Nat → List Char → Nat
  | _, [] => 0
  | skip + 1, _ :: cs => countFrom needle skip cs
  | 0, c :: cs =>
    if needle.isPrefixOf (c :: cs) then countFrom needle (needle.length - 1) cs + 1
    else countFrom needle 0 cs

/-- How often a text occurs in another. -/
def count (needle subject : List Char) : Nat := if needle = [] then 0 else countFrom needle 0 subject

theorem count_nil_right (needle : List Char) : count needle [] = 0 := by
  unfold count
  split <;> rfl

end Occurrences

/-! ### Frequencies -/

/-- A table of characters with their counts, and the place of each character in it. -/
structure FrequencyTable where
  entries : Array (Char × Nat)
  slots : Std.TreeMap Char Nat

namespace FrequencyTable

/-- The table of the empty text. -/
def empty : FrequencyTable := ⟨#[], ∅⟩

/-- The table with one more occurrence of `c`. -/
def add (table : FrequencyTable) (c : Char) : FrequencyTable :=
  match table.slots[c]? with
  | some place => { table with entries := table.entries.modify place fun entry => (entry.1, entry.2 + 1) }
  | none => ⟨table.entries.push (c, 1), table.slots.insert c table.entries.size⟩

/-- The table of a text. -/
def ofText (subject : List Char) : FrequencyTable := subject.foldl add empty

end FrequencyTable

/-- Each character of a text with its number of occurrences, in the order of first occurrence. -/
def frequencies (subject : List Char) : List (Char × Nat) := (FrequencyTable.ofText subject).entries.toList

/-- The entry that stays when each entry in turn replaces the one before it if its count beats that one's. -/
def pickExtreme (beats : Nat → Nat → Bool) (entries : List (Char × Nat)) : Option (Char × Nat) :=
  entries.foldl (fun best entry =>
    match best with
    | none => some entry
    | some (c, n) => if beats entry.2 n then some entry else some (c, n)) none

/-- The character whose count is beaten by no other, the first of equals; empty for the empty text. -/
def extreme (beats : Nat → Nat → Bool) (subject : List Char) : List Char :=
  match pickExtreme beats (frequencies subject) with
  | some (c, _) => [c]
  | none => []

/-! ### Functions -/

/-- A function that a rule can call. -/
inductive Function where
  | count
  | avg
  | min
  | max
  | sum
  deriving DecidableEq

namespace Function

/-- The name by which a rule calls a function. -/
def name : Function → String
  | count => "count"
  | avg => "avg"
  | min => "min"
  | max => "max"
  | sum => "sum"

/-- The functions that there are. -/
def all : List Function := [count, avg, min, max, sum]

/-- The function of a name. -/
def ofName? (s : String) : Option Function := all.find? (·.name == s)

/-- The function of a name, or why there is none. -/
def ofName (s : String) : Except RuleError Function :=
  match ofName? s with
  | some f => .ok f
  | none => .error (.unknownFunction s)

/-- The value of a call: `count` is the number of occurrences of the argument, `avg` its quotient by the length,
    `min` and `max` the rarest and the most frequent character, and `sum` the length. -/
def call (f : Function) (argument subject : List Char) : Value :=
  match f with
  | count => .number (Number.ofNat (Occurrences.count argument subject))
  | avg => .number ((Number.ofNat (Occurrences.count argument subject)).div (Number.ofNat subject.length))
  | min => .text (String.ofList (extreme (fun n best => n < best) subject))
  | max => .text (String.ofList (extreme (fun n best => n > best) subject))
  | sum => .number (Number.ofNat subject.length)

theorem ofName_name (f : Function) : ofName f.name = .ok f := by
  cases f <;> simp [ofName, ofName?, all, name]

end Function

open Json Utf8

/-! ### Reading from JSON -/

/-- The function that a JSON text names. -/
def Function.ofJson? (text : String) : Option Function :=
  (readName? (tokens (ofText text.toList))).bind Function.ofName?

/-- The operator that a JSON text names. -/
def Operator.ofJson? (text : String) : Option Operator :=
  (readName? (tokens (ofText text.toList))).bind fun name => Operator.all.find? (·.name == name)

/-- The value that a JSON text is: a number or a string, with nothing but blanks behind it. -/
def Value.ofJson? (text : String) : Option Value :=
  match tokens (ofText text.toList) with
  | [.number (some n)] => some (.number n)
  | [.string (some s)] => some (.text s)
  | _ => none

end TextRules
