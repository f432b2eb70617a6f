import RemoteSigner.Bytes.Hex
import RemoteSigner.Text.Numeral

/-!
# Addresses to listen on

An address is an IPv4 or IPv6 address with a port. IPv6 addresses are written
in brackets, the longest run of zero groups shortened, small letters.
-/

namespace RemoteSigner

/-- The address of a host. -/
inductive HostAddress where
  | v4 (octets : List Nat)
  /-- Eight groups and the number of the zone. -/
  | v6 (groups : List Nat) (zone : Nat)
deriving DecidableEq, Repr

/-- An address to listen on. -/
structure ListenAddress where
  host : HostAddress
  port : Nat
deriving DecidableEq, Repr

namespace ListenAddress

/-- Port `port` of the host itself. -/
def loopback (port : Nat) : ListenAddress :=
  ⟨.v4 [127, 0, 0, 1], port⟩

/-- Whether every host has the address: it means the host itself or any of its
addresses. -/
def isAssignable (a : ListenAddress) : Bool :=
  match a.host with
  | .v4 octets => octets.head? == some 127 || octets.all (· == 0)
  | .v6 groups _ => groups.dropLast.all (· == 0) && groups.getLast?.all (· ≤ 1)

/-- The value of digits to a base. -/
def valueOf (base : Nat) (digits : List Char) : Nat :=
  digits.foldl (fun n c => n * base + (Hex.value? c).getD 0) 0

/-- Read decimal digits up to a bound. -/
def decimal? (bound : Nat) (cs : List Char) : Option (Nat × List Char) :=
  let digits := cs.takeWhile Numeral.isDigit
  let n := valueOf 10 digits
  if digits.isEmpty ∨ bound < n then none else some (n, cs.dropWhile Numeral.isDigit)

/-- Read a part of an IPv4 address: at most three digits without a zero in
front. -/
def octet? (cs : List Char) : Option (Nat × List Char) :=
  let digits := cs.takeWhile Numeral.isDigit
  if 3 < digits.length ∨ (1 < digits.length ∧ digits.head? = some '0') then none
  else decimal? 255 cs

/-- Read a group of an IPv6 address: at most four hexadecimal digits. -/
def group? (cs : List Char) : Option (Nat × List Char) :=
  let digits := cs.takeWhile Hex.isDigit
  if digits.isEmpty ∨ 4 < digits.length then none
  else some (valueOf 16 digits, cs.dropWhile Hex.isDigit)

/-- Drop an expected character. -/
def expect? (c : Char) : List Char → Option (List Char)
  | d :: rest => if c = d then some rest else none
  | [] => none

/-- Read an IPv4 address. -/
def octets? (cs : List Char) : Option (List Nat × List Char) := do
  let (a, cs) ← octet? cs
  let (b, cs) ← octet? (← expect? '.' cs)
  let (c, cs) ← octet? (← expect? '.' cs)
  let (d, cs) ← octet? (← expect? '.' cs)
  pure ([a, b, c, d], cs)

/-- Drop the colon in front of every group but the first. -/
def separated? (isFirst : Bool) (cs : List Char) : Option (List Char) :=
  if isFirst then some cs else expect? ':' cs

/-- Read up to `limit` groups; the last two may be written as an IPv4 address.
The truth value tells whether they were. -/
def groups (isFirst : Bool) : Nat → List Char → List Nat × Bool × List Char
  | 0, cs => ([], false, cs)
  | limit + 1, cs =>
      let embedded := do
        if limit = 0 then none
        else octets? (← separated? isFirst cs)
      match embedded with
      | some ([a, b, c, d], rest) => ([a * 256 + b, c * 256 + d], true, rest)
      | _ =>
          match (separated? isFirst cs).bind group? with
          | none => ([], false, cs)
          | some (g, rest) =>
              let (others, isEmbedded, rest) := groups false limit rest
              (g :: others, isEmbedded, rest)

/-- Read an IPv6 address. -/
def address? (cs : List Char) : Option (List Nat × List Char) :=
  let (head, isEmbedded, rest) := groups true 8 cs
  if head.length = 8 then some (head, rest)
  else if isEmbedded then none
  else do
    let rest ← expect? ':' (← expect? ':' rest)
    let (tail, _, rest) := groups true (7 - head.length) rest
    pure (head ++ List.replicate (8 - head.length - tail.length) 0 ++ tail, rest)

/-- Read the number of a zone behind its mark, if it is there. -/
def zone (cs : List Char) : Nat × List Char :=
  match (expect? '%' cs).bind (decimal? 4294967295) with
  | some found => found
  | none => (0, cs)

/-- Read the port at the end of an address. -/
def port? (cs : List Char) : Option Nat := do
  match ← decimal? 65535 (← expect? ':' cs) with
  | (n, []) => some n
  | _ => none

/-- Read an address. -/
def parse? (text : String) : Option ListenAddress :=
  let cs := text.toList
  match octets? cs with
  | some (octets, rest) => (port? rest).map (ListenAddress.mk (.v4 octets))
  | none => do
      let (groups, rest) ← address? (← expect? '[' cs)
      let (number, rest) := zone rest
      let port ← port? (← expect? ']' rest)
      pure ⟨.v6 groups number, port⟩

/-- The runs of zeros in a list of groups from a place on: start and length. -/
def zeroRuns : Nat → List Nat → List (Nat × Nat)
  | _, [] => []
  | place, g :: rest =>
      if g = 0 then (place, 1 + (rest.takeWhile (· = 0)).length) :: zeroRuns (place + 1) rest
      else zeroRuns (place + 1) rest

/-- The first longest run of zeros. -/
def longestRun (groups : List Nat) : Nat × Nat :=
  (zeroRuns 0 groups).foldl (fun best run => if best.2 < run.2 then run else best) (0, 0)

/-- The text of groups between colons. -/
def groupsText (groups : List Nat) : String :=
  String.intercalate ":" (groups.map fun g => String.ofList (Nat.toDigits 16 g))

/-- The text of an IPv4 address. -/
def octetsText (octets : List Nat) : String :=
  String.intercalate "." (octets.map Numeral.encode)

/-- The text of an IPv6 address. -/
def v6Text (groups : List Nat) : String :=
  match groups with
  | [0, 0, 0, 0, 0, 0xffff, a, b] =>
      "::ffff:" ++ octetsText [a / 256, a % 256, b / 256, b % 256]
  | _ =>
      let (start, length) := longestRun groups
      if length ≤ 1 then groupsText groups
      else groupsText (groups.take start) ++ "::" ++ groupsText (groups.drop (start + length))

/-- The text of an address. -/
def toText (a : ListenAddress) : String :=
  match a.host with
  | .v4 octets => octetsText octets ++ ":" ++ Numeral.encode a.port
  | .v6 groups number =>
      let mark := if number = 0 then "" else "%" ++ Numeral.encode number
      "[" ++ v6Text groups ++ mark ++ "]:" ++ Numeral.encode a.port

end ListenAddress

end RemoteSigner
