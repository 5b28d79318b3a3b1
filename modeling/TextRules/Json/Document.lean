import TextRules.Number.Decimal

/-!
JSON documents and their one written form: no blanks, members in the order given, and in strings an escape
    only for the quote, the backslash and the characters below U+0020.
-/

namespace TextRules

/-- A JSON document. Members keep their order. -/
inductive Json where
  | null
  | bool (b : Bool)
  | natural (n : Nat)
  | number (n : Number)
  | string (s : String)
  | array (items : List Json)
  | object (members : List (String × Json))

namespace Json

open Text

/-- A character as it is written inside a string. -/
def escape (c : Char) : List Char :=
  if c = '"' then ['\\', '"']
  else if c = '\\' then ['\\', '\\']
  else if c.toNat < 0x20 then
    if c.toNat = 0x08 then ['\\', 'b']
    else if c = '\t' then ['\\', 't']
    else if c = '\n' then ['\\', 'n']
    else if c.toNat = 0x0C then ['\\', 'f']
    else if c = '\r' then ['\\', 'r']
    else ['\\', 'u', '0', '0', hexDigit (c.toNat / 16), hexDigit (c.toNat % 16)]
  else [c]

/-- A string between quotes. -/
def quoted (cs : List Char) : List Char := '"' :: cs.flatMap escape ++ ['"']

mutual

/-- The written form of a document. -/
def chars : Json → List Char
  | null => ['n', 'u', 'l', 'l']
  | bool true => ['t', 'r', 'u', 'e']
  | bool false => ['f', 'a', 'l', 's', 'e']
  | natural n => decimalDigits n
  | number n => n.json.toList
  | string s => quoted s.toList
  | array items => '[' :: itemsChars items ++ [']']
  | object members => '\x7b' :: membersChars members ++ ['\x7d']

/-- The items of an array, with commas between them. -/
def itemsChars : List Json → List Char
  | [] => []
  | [x] => x.chars
  | x :: y :: rest => x.chars ++ ',' :: itemsChars (y :: rest)

/-- The members of an object, with commas between them. -/
def membersChars : List (String × Json) → List Char
  | [] => []
  | [(name, x)] => quoted name.toList ++ ':' :: x.chars
  | (name, x) :: y :: rest => quoted name.toList ++ ':' :: (x.chars ++ ',' :: membersChars (y :: rest))

end

/-- The text that a document is written as. -/
def render (x : Json) : String := String.ofList x.chars

end Json
end TextRules
