import FleetGate.Encoding.Hex
import FleetGate.Number.Numeral
import FleetGate.Text.Search

/-!
# Address literals

The texts that are IPv4 or IPv6 addresses.

An IPv4 literal is four decimal octets without leading zeros. An IPv6 literal is eight groups of up
to four hexadecimal digits, where one `::` may stand for one or more zero groups, and the last two
groups may be written as an IPv4 literal.
-/

namespace FleetGate.Net

/-- An octet: up to three digits, at most 255, no leading zero. -/
def isOctet (s : List Char) : Bool :=
  s.length ≤ 3 && (s.length ≤ 1 || s.head? != some '0') &&
    (Number.natOfDigits? s).any (· ≤ 255)

/-- The form of an IPv4 address. -/
def isIPv4 (s : List Char) : Bool :=
  let octets := Text.splitOn '.' s
  octets.length == 4 && octets.all isOctet

/-- A group of an IPv6 address: one to four hexadecimal digits. -/
def isHexGroup (s : List Char) : Bool :=
  !s.isEmpty && s.length ≤ 4 && s.all fun c => (Encoding.hexValue? c).isSome

/-- How many groups the pieces of a run fill. Only the last piece of the whole address may be an
IPv4 literal, which fills two. -/
def groupCount? (mayEndInIPv4 : Bool) : List (List Char) → Option Nat
  | [] => some 0
  | [piece] =>
    if isHexGroup piece then some 1
    else if mayEndInIPv4 && isIPv4 piece then some 2
    else none
  | piece :: pieces =>
    if isHexGroup piece then (groupCount? mayEndInIPv4 pieces).map (· + 1) else none

/-- How many groups a run of pieces separated by colons fills; an empty run fills none. -/
def runLength? (mayEndInIPv4 : Bool) (s : List Char) : Option Nat :=
  if s.isEmpty then some 0 else groupCount? mayEndInIPv4 (Text.splitOn ':' s)

/-- The form of an IPv6 address. -/
def isIPv6 (s : List Char) : Bool :=
  match Text.splitOnce? [':', ':'] s with
  | none => !s.isEmpty && runLength? true s == some 8
  | some (front, back) =>
    match runLength? false front, runLength? true back with
    | some m, some n => m + n ≤ 7
    | _, _ => false

/-- The form of an address. -/
def isAddress (s : List Char) : Bool :=
  isIPv4 s || isIPv6 s

end FleetGate.Net
