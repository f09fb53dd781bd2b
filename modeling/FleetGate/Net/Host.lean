import FleetGate.Net.Address
import FleetGate.Text.Class

/-!
# Hosts in logs

The host of an API server as a log may show it: an address is replaced by a placeholder, while
names, the scheme, the port and the path stay.
-/

namespace FleetGate.Net

/-- What a log shows in place of an address. -/
def redactedAddress : List Char := "[redacted-ip]".toList

/-- A host cut into scheme with its `://`, address, port with its colon, and path. -/
structure HostParts where
  scheme : List Char
  address : List Char
  port : List Char
  path : List Char
  deriving DecidableEq

/-- The characters before the first `c`, and those from it on. -/
def cutBefore (c : Char) (s : List Char) : List Char × List Char :=
  (s.takeWhile (· != c), s.dropWhile (· != c))

/-- Cuts the port off an authority. What follows a closing bracket is the port of a bracketed
address; without brackets a port follows the only colon, more colons than one being an address. -/
def splitPort (authority : List Char) : List Char × List Char :=
  match authority with
  | '[' :: _ =>
    match cutBefore ']' authority with
    | (inside, ']' :: port) => (inside ++ [']'], port)
    | _ => (authority, [])
  | _ =>
    if authority.count ':' = 1 then cutBefore ':' authority else (authority, [])

/-- Cuts a host into its parts. -/
def HostParts.of (host : List Char) : HostParts :=
  let (scheme, rest) := match Text.splitOnce? [':', '/', '/'] host with
    | some (scheme, rest) => (scheme ++ [':', '/', '/'], rest)
    | none => ([], host)
  let (authority, path) := cutBefore '/' rest
  let (address, port) := splitPort authority
  { scheme, address, port, path }

/-- An address without the brackets around it. -/
def withoutBrackets (s : List Char) : List Char :=
  ((s.dropWhile (· == '[')).reverse.dropWhile (· == ']')).reverse

/-- The characters of a host for a log. -/
def redactChars (host : List Char) : List Char :=
  let host := Text.trimChars host
  if host.isEmpty then "<empty>".toList
  else
    let parts := HostParts.of host
    if isAddress (withoutBrackets parts.address) then
      parts.scheme ++ redactedAddress ++ parts.port ++ parts.path
    else host

/-- A host for a log. -/
def redactHost (host : String) : String :=
  String.ofList (redactChars host.toList)

end FleetGate.Net
