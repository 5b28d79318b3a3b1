import TextRules.Text.Basic

/-!
Network addresses: an IP address and a port. An address of version 4 is four decimal numbers, written without
    leading zeros. One of version 6 stands in brackets; it is eight hexadecimal groups, of which zeros may be left
    out in one place and the last two may be an address of version 4. Of the ways to write it one is canonical:
    the longest run of two or more zeros is left out, the first of several, and only an address that maps one of
    version 4 ends in one.
-/

namespace TextRules

open Text

/-- An address of version 4. -/
structure Ipv4 where
  a : UInt8
  b : UInt8
  c : UInt8
  d : UInt8
  deriving DecidableEq

/-- An address of version 6, in groups of 16 bits. -/
structure Ipv6 where
  groups : List UInt16
  length_eq : groups.length = 8

/-- The place where a server listens. The scope of an address of version 6 is the network it counts for, zero
    being none. -/
inductive SocketAddress where
  | v4 (ip : Ipv4) (port : UInt16)
  | v6 (ip : Ipv6) (scope : UInt32) (port : UInt16)

/-! ### Reading -/

/-- The decimal number at the front of a text, which is below a limit, and what follows. -/
def readDecimal (limit : Nat) (cs : List Char) : Option (Nat × List Char) :=
  let digits := cs.takeWhile isDigit
  let n := decimalValue digits
  if !digits.isEmpty && n < limit then some (n, cs.drop digits.length) else none

/-- What follows a character. -/
def after? (c : Char) : List Char → Option (List Char)
  | d :: cs => if d = c then some cs else none
  | [] => none

namespace Ipv4

/-- One of the numbers of an address, and what follows. -/
def readOctet (cs : List Char) : Option (UInt8 × List Char) :=
  let digits := cs.takeWhile isDigit
  if digits.length > 3 || (digits.length > 1 && digits.head? = some '0') then none
  else (readDecimal 256 cs).map fun (n, rest) => (UInt8.ofNat n, rest)

/-- The address at the front of a text, and what follows. -/
def read (cs : List Char) : Option (Ipv4 × List Char) := do
  let (a, cs) ← readOctet cs
  let (b, cs) ← readOctet (← after? '.' cs)
  let (c, cs) ← readOctet (← after? '.' cs)
  let (d, cs) ← readOctet (← after? '.' cs)
  return (⟨a, b, c, d⟩, cs)

/-- An address as it is written: its four bytes in decimal, with points between them. -/
def chars (ip : Ipv4) : List Char :=
  let octet (n : UInt8) := decimalDigits n.toNat
  octet ip.a ++ '.' :: octet ip.b ++ '.' :: octet ip.c ++ '.' :: octet ip.d

/-- The two groups of 16 bits that an address fills. -/
def groups (ip : Ipv4) : List UInt16 :=
  [ip.a.toUInt16 * 256 + ip.b.toUInt16, ip.c.toUInt16 * 256 + ip.d.toUInt16]

end Ipv4

namespace Ipv6

/-- One group, and what follows. -/
def readGroup (cs : List Char) : Option (UInt16 × List Char) :=
  let digits := cs.takeWhile fun c => (hexValue? c).isSome
  if digits.isEmpty || digits.length > 4 then none
  else
    let n := digits.foldl (fun n c => 16 * n + (hexValue? c).getD 0) 0
    some (UInt16.ofNat n, cs.drop digits.length)

/-- What follows the colon before a group, of which there is none before the first. -/
def afterColon? (isFirst : Bool) (cs : List Char) : Option (List Char) :=
  if isFirst then some cs else after? ':' cs

/-- As many groups as there are, up to a number, whether an address of version 4 ended them, and what follows. -/
def readGroups : Nat → (isFirst : Bool) → List Char → List UInt16 × Bool × List Char
  | 0, _, cs => ([], false, cs)
  | room + 1, isFirst, cs =>
    match if room = 0 then none else (afterColon? isFirst cs).bind Ipv4.read with
    | some (ip, rest) => (ip.groups, true, rest)
    | none =>
      match (afterColon? isFirst cs).bind readGroup with
      | some (group, rest) =>
        let (groups, mixed, rest) := readGroups room false rest
        (group :: groups, mixed, rest)
      | none => ([], false, cs)

/-- An address of eight groups. -/
def ofGroups? (groups : List UInt16) : Option Ipv6 :=
  if h : groups.length = 8 then some ⟨groups, h⟩ else none

/-- The address at the front of a text, and what follows. -/
def read (cs : List Char) : Option (Ipv6 × List Char) :=
  match readGroups 8 true cs with
  | (front, mixed, rest) =>
    if front.length = 8 then (ofGroups? front).map (·, rest)
    else if mixed then none
    else
      match rest with
      | ':' :: ':' :: rest =>
        let (back, _, rest) := readGroups (7 - front.length) true rest
        (ofGroups? (front ++ List.replicate (8 - front.length - back.length) 0 ++ back)).map (·, rest)
      | _ => none

/-- How many zeros stand one after the other from a place on. -/
def zerosFrom (groups : List UInt16) (start : Nat) : Nat := ((groups.drop start).takeWhile (· = 0)).length

/-- Where the zeros are left out: the start and the length of the longest run, the first of several. -/
def longestZeros (groups : List UInt16) : Nat × Nat :=
  (List.range groups.length).foldl
    (fun best start => if zerosFrom groups start > best.2 then (start, zerosFrom groups start) else best) (0, 0)

/-- Groups with colons between them. -/
def joined (groups : List UInt16) : List Char :=
  [':'].intercalate (groups.map fun g => Nat.toDigits 16 g.toNat)

/-- The address of version 4 that an address maps. -/
def mapped? (ip : Ipv6) : Option Ipv4 :=
  match ip.groups with
  | [0, 0, 0, 0, 0, 0xFFFF, x, y] => some ⟨(x / 256).toUInt8, x.toUInt8, (y / 256).toUInt8, y.toUInt8⟩
  | _ => none

/-- An address as it is written: its groups in hexadecimal, the longest run of zeros left out, or the mapped address of
    version 4. -/
def chars (ip : Ipv6) : List Char :=
  match ip.mapped? with
  | some ip => "::ffff:".toList ++ ip.chars
  | none =>
    let (start, length) := longestZeros ip.groups
    if length > 1 then joined (ip.groups.take start) ++ ':' :: ':' :: joined (ip.groups.drop (start + length))
    else joined ip.groups

/-- The scope behind an address, and what follows. Where none can be read there is none. -/
def readScope (cs : List Char) : Nat × List Char :=
  ((after? '%' cs).bind (readDecimal (Nat.pow 2 32))).getD (0, cs)

end Ipv6

namespace SocketAddress

/-- The port behind a colon, and nothing behind it. -/
def readPort? (cs : List Char) : Option UInt16 := do
  let (n, rest) ← readDecimal (Nat.pow 2 16) (← after? ':' cs)
  if rest.isEmpty then some (UInt16.ofNat n) else none

/-- The address with a port that a text spells. -/
def parse? (text : String) : Option SocketAddress :=
  match text.toList with
  | '[' :: cs => do
    let (ip, cs) ← Ipv6.read cs
    let (scope, cs) := Ipv6.readScope cs
    let port ← readPort? (← after? ']' cs)
    return v6 ip (UInt32.ofNat scope) port
  | cs => do
    let (ip, cs) ← Ipv4.read cs
    let port ← readPort? cs
    return v4 ip port

/-- The text that spells an address with its port. -/
def render : SocketAddress → String
  | v4 ip port => String.ofList (ip.chars ++ ':' :: decimalDigits port.toNat)
  | v6 ip scope port =>
    let zone := if scope = 0 then [] else '%' :: decimalDigits scope.toNat
    String.ofList ('[' :: ip.chars ++ zone ++ ']' :: ':' :: decimalDigits port.toNat)

end SocketAddress
end TextRules
