import Mathlib.Data.List.Basic

set_option autoImplicit false

/-!
# IP addresses as text

IPv4 and IPv6 addresses, how they are read from text and how they are written. Reading accepts
every textual form; writing has one form for each address: no leading zeros, lower-case hexadecimal,
and the first longest run of zero segments shortened.

## Main definitions

* `Ipv4Addr`, `Ipv6Addr`, `IpAddr` — the addresses.
* `IpAddr.parse` — read a text.
* `IpAddr.display` — write an address.
* `IpAddr.canonical` — an IPv4-mapped IPv6 address as the IPv4 address that it stands for.
-/

namespace RemoteLink.Library

/-- An IPv4 address, by its octets. -/
structure Ipv4Addr where
  a : UInt8
  b : UInt8
  c : UInt8
  d : UInt8
  deriving DecidableEq

/-- An IPv6 address, by its eight segments. -/
structure Ipv6Addr where
  segments : List UInt16
  length_eq : segments.length = 8
  deriving DecidableEq

/-- An IP address. -/
inductive IpAddr where
  | v4 (addr : Ipv4Addr)
  | v6 (addr : Ipv6Addr)
  deriving DecidableEq

/-! ## Reading -/

namespace IpAddr

/-- The value of a digit in a radix up to sixteen. -/
def toDigit (radix : Nat) (c : Char) : Option Nat :=
  let value :=
    if '0' ≤ c ∧ c ≤ '9' then some (c.toNat - '0'.toNat)
    else if 'a' ≤ c ∧ c ≤ 'f' then some (c.toNat - 'a'.toNat + 10)
    else if 'A' ≤ c ∧ c ≤ 'F' then some (c.toNat - 'A'.toNat + 10)
    else none
  value.filter fun n => decide (n < radix)

/-- The digits in front of a text, and what follows them. -/
def digits (radix : Nat) : List Char → List Nat × List Char
  | [] => ([], [])
  | c :: cs =>
    match toDigit radix c with
    | some n => (n :: (digits radix cs).1, (digits radix cs).2)
    | none => ([], c :: cs)

/-- Read a number of at most `maxDigits` digits; a superfluous zero in front may be refused. -/
def readNumber (radix maxDigits : Nat) (allowZeroPrefix : Bool) (cs : List Char) :
    Option (Nat × List Char) :=
  let (ds, rest) := digits radix cs
  if ds.isEmpty ∨ maxDigits < ds.length then none
  else if !allowZeroPrefix ∧ ds.head? = some 0 ∧ 1 < ds.length then none
  else some (ds.foldl (fun acc d => acc * radix + d) 0, rest)

/-- Read a given character. -/
def readChar (c : Char) : List Char → Option (List Char)
  | [] => none
  | c' :: cs => if c = c' then some cs else none

/-- Read an octet in decimal. -/
def readOctet (cs : List Char) : Option (UInt8 × List Char) :=
  (readNumber 10 3 false cs).bind fun (n, rest) =>
    if n < 256 then some (n.toUInt8, rest) else none

/-- Read four octets between dots. -/
def readIpv4 (cs : List Char) : Option (Ipv4Addr × List Char) := do
  let (a, cs) ← readOctet cs
  let (b, cs) ← readOctet (← readChar '.' cs)
  let (c, cs) ← readOctet (← readChar '.' cs)
  let (d, cs) ← readOctet (← readChar '.' cs)
  return (⟨a, b, c, d⟩, cs)

/-- Read a segment in hexadecimal. -/
def readSegment (cs : List Char) : Option (UInt16 × List Char) :=
  (readNumber 16 4 true cs).map fun (n, rest) => (n.toUInt16, rest)

/-- Read behind a colon, except in front. -/
def readSeparated {α : Type} (front : Bool) (read : List Char → Option (α × List Char))
    (cs : List Char) : Option (α × List Char) :=
  if front then read cs else (readChar ':' cs).bind read

/-- The two segments of an IPv4 address. -/
def ipv4Segments (v4 : Ipv4Addr) : List UInt16 :=
  [v4.a.toUInt16 * 256 + v4.b.toUInt16, v4.c.toUInt16 * 256 + v4.d.toUInt16]

/-- Read at most `left` segments between colons, the last two perhaps as an IPv4 address. The answer
says whether they were. -/
def readSegments (front : Bool) : (left : Nat) → List Char → List UInt16 × Bool × List Char
  | 0, cs => ([], false, cs)
  | left + 1, cs =>
    match if 0 < left then readSeparated front readIpv4 cs else none with
    | some (addr, rest) => (ipv4Segments addr, true, rest)
    | none =>
      match readSeparated front readSegment cs with
      | some (segment, rest) =>
        let (segments, embedded, rest) := readSegments false left rest
        (segment :: segments, embedded, rest)
      | none => ([], false, cs)

/-- No more segments are read than are asked for. -/
theorem length_readSegments_le (front : Bool) (left : Nat) (cs : List Char) :
    (readSegments front left cs).1.length ≤ left := by
  induction left generalizing front cs with
  | zero => exact Nat.le_refl 0
  | succ left ih =>
    unfold readSegments
    rcases hembedded : (if 0 < left then readSeparated front readIpv4 cs else none) with
      _ | ⟨addr, rest⟩
    · dsimp only
      rcases readSeparated front readSegment cs with _ | ⟨segment, rest⟩
      · exact Nat.zero_le _
      · exact Nat.succ_le_succ (ih false rest)
    · have hleft : 0 < left := by
        by_contra hzero
        rw [if_neg hzero] at hembedded
        cases hembedded
      exact Nat.succ_le_succ hleft

/-- Read an IPv6 address: eight segments, or fewer around a double colon that stands for at least
one zero segment. -/
def readIpv6 (cs : List Char) : Option (Ipv6Addr × List Char) :=
  let head := readSegments true 8 cs
  if h : head.1.length = 8 then some (⟨head.1, h⟩, head.2.2)
  else if head.2.1 then none
  else match head.2.2 with
    | ':' :: ':' :: rest =>
      let back := readSegments true (7 - head.1.length) rest
      some (⟨head.1 ++ (List.replicate (8 - head.1.length - back.1.length) 0 ++ back.1), by
        have hhead : head.1.length ≤ 8 := length_readSegments_le true 8 cs
        have hback : back.1.length ≤ 7 - head.1.length := length_readSegments_le true _ rest
        rw [List.length_append, List.length_append, List.length_replicate]
        omega⟩, back.2.2)
    | _ => none

/-- **Read an address**: all of a text, as an IPv4 or else as an IPv6 address. -/
def parse (s : String) : Option IpAddr :=
  let found := match readIpv4 s.toList with
    | some (addr, rest) => some (IpAddr.v4 addr, rest)
    | none => (readIpv6 s.toList).map fun (addr, rest) => (IpAddr.v6 addr, rest)
  match found with
  | some (addr, []) => some addr
  | _ => none

end IpAddr

/-! ## Writing -/

/-- Four decimal numbers between dots. -/
def Ipv4Addr.display (v4 : Ipv4Addr) : String :=
  s!"{v4.a.toNat}.{v4.b.toNat}.{v4.c.toNat}.{v4.d.toNat}"

namespace Ipv6Addr

/-- A run of zero segments: where it starts and how long it is. -/
structure Span where
  start : Nat
  len : Nat

/-- The first longest run of zero segments, given the longest so far and the current one. -/
def longestZeros : List UInt16 → (i : Nat) → (longest current : Span) → Span
  | [], _, longest, _ => longest
  | segment :: segments, i, longest, current =>
    if segment = 0 then
      let current : Span := ⟨if current.len = 0 then i else current.start, current.len + 1⟩
      longestZeros segments (i + 1) (if longest.len < current.len then current else longest) current
    else longestZeros segments (i + 1) longest ⟨0, 0⟩

/-- Segments in hexadecimal between colons. -/
def displaySegments (segments : List UInt16) : String :=
  String.intercalate ":" (segments.map fun segment => String.ofList (Nat.toDigits 16 segment.toNat))

/-- The IPv4 address that an IPv4-mapped address stands for. -/
def toIpv4Mapped (v6 : Ipv6Addr) : Option Ipv4Addr :=
  match v6.segments with
  | [0, 0, 0, 0, 0, 0xffff, ab, cd] =>
    some ⟨(ab / 256).toUInt8, ab.toUInt8, (cd / 256).toUInt8, cd.toUInt8⟩
  | _ => none

/-- The text of an IPv6 address. -/
def display (v6 : Ipv6Addr) : String :=
  match v6.toIpv4Mapped with
  | some v4 => "::ffff:" ++ v4.display
  | none =>
    let zeros := longestZeros v6.segments 0 ⟨0, 0⟩ ⟨0, 0⟩
    if 1 < zeros.len then
      displaySegments (v6.segments.take zeros.start) ++ "::" ++
        displaySegments (v6.segments.drop (zeros.start + zeros.len))
    else displaySegments v6.segments

end Ipv6Addr

namespace IpAddr

/-- The text of an address. -/
def display : IpAddr → String
  | .v4 addr => addr.display
  | .v6 addr => addr.display

/-- An IPv4-mapped IPv6 address as the IPv4 address that it stands for. -/
def canonical : IpAddr → IpAddr
  | .v4 addr => .v4 addr
  | .v6 addr =>
    match addr.toIpv4Mapped with
    | some mapped => .v4 mapped
    | none => .v6 addr

end IpAddr

end RemoteLink.Library
