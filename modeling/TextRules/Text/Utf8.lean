/-!
UTF-8. A character is written in one to four bytes. Bytes are read from left to right into symbols: a symbol
    is a character, or the mark of an ill-formed piece. A piece is ill-formed as soon as no character begins
    with its bytes, and the byte that shows it is read anew; so well-formed text is never swallowed, whatever
    stands before it.
-/

namespace TextRules
namespace Utf8

/-- A character, or `none` for an ill-formed piece. -/
abbrev Symbol := Option Char

/-- The continuation byte that holds the lowest six bits of `n`. -/
def continuation (n : Nat) : UInt8 := UInt8.ofNat (0x80 + n % 0x40)

/-- The bytes of a character. -/
def encodeChar (c : Char) : List UInt8 :=
  let n := c.toNat
  if n < 0x80 then [UInt8.ofNat n]
  else if n < 0x800 then [UInt8.ofNat (0xC0 + n / 0x40), continuation n]
  else if n < 0x10000 then [UInt8.ofNat (0xE0 + n / 0x1000), continuation (n / 0x40), continuation n]
  else [UInt8.ofNat (0xF0 + n / 0x40000), continuation (n / 0x1000), continuation (n / 0x40), continuation n]

/-- The bytes of a text. -/
def encode (cs : List Char) : List UInt8 := cs.flatMap encodeChar

/-- A character of which some bytes are read: the bits so far, how many bytes are missing, and the range in
    which the next one has to be. -/
structure Unfinished where
  bits : Nat
  missing : Nat
  low : UInt8
  high : UInt8

/-- What a byte begins: a whole character, an unfinished one, or nothing. -/
def begin? (b : UInt8) : Option (Char ⊕ Unfinished) :=
  if b < 0x80 then some (.inl (Char.ofNat b.toNat))
  else if b < 0xC2 then none
  else if b < 0xE0 then some (.inr ⟨b.toNat - 0xC0, 1, 0x80, 0xBF⟩)
  else if b < 0xF0 then
    some (.inr ⟨b.toNat - 0xE0, 2, if b = 0xE0 then 0xA0 else 0x80, if b = 0xED then 0x9F else 0xBF⟩)
  else if b < 0xF5 then
    some (.inr ⟨b.toNat - 0xF0, 3, if b = 0xF0 then 0x90 else 0x80, if b = 0xF4 then 0x8F else 0xBF⟩)
  else none

/-- The symbols that a byte completes where no character is unfinished, and what is unfinished after it. -/
def start (b : UInt8) : List Symbol × Option Unfinished :=
  match begin? b with
  | some (.inl c) => ([some c], none)
  | some (.inr u) => ([], some u)
  | none => ([none], none)

/-- The symbols that a byte completes, and what is unfinished after it. -/
def step (state : Option Unfinished) (b : UInt8) : List Symbol × Option Unfinished :=
  match state with
  | none => start b
  | some u =>
    if u.low ≤ b ∧ b ≤ u.high then
      let bits := u.bits * 0x40 + (b.toNat - 0x80)
      if u.missing ≤ 1 then ([some (Char.ofNat bits)], none) else ([], some ⟨bits, u.missing - 1, 0x80, 0xBF⟩)
    else
      let (symbols, next) := start b
      (none :: symbols, next)

/-- The symbols of a list of bytes, from a state on; an unfinished character at the end is ill-formed. -/
def decodeFrom (state : Option Unfinished) : List UInt8 → List Symbol
  | [] => if state.isSome then [none] else []
  | b :: bytes =>
    let (symbols, next) := step state b
    symbols ++ decodeFrom next bytes

/-- The symbols of a list of bytes. -/
def decode (bytes : List UInt8) : List Symbol := decodeFrom none bytes

/-- The text of a list of bytes, with U+FFFD for each ill-formed piece. -/
def decodeLossy (bytes : List UInt8) : List Char := (decode bytes).map (·.getD '\uFFFD')

/-- The text of a list of bytes, if they are well-formed. -/
def decode? (bytes : List UInt8) : Option (List Char) := (decode bytes).mapM id

/-- A text as symbols. -/
def ofText (cs : List Char) : List Symbol := cs.map some

end Utf8
end TextRules
