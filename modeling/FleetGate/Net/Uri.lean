import FleetGate.Net.Target
import FleetGate.Text.Case

/-!
# URIs

The texts that name a server or a proxy: a scheme with an authority and perhaps a path, an authority
alone, or a path alone. Only a URI with a scheme can be connected to, but the others are well formed
too.
-/

namespace FleetGate.Net

/-- A URI. -/
structure Uri where
  scheme? : Option String := none
  /-- User, host and port; empty in a URI that is a path alone. -/
  authority : String := ""
  /-- Path and query, without the fragment. -/
  target : String := ""
  deriving DecidableEq, Repr

namespace Uri

/-- The characters of a scheme. -/
def isSchemeChar (c : Char) : Bool :=
  c.isAlphanum || c = '+' || c = '-' || c = '.' || c = '~'

/-- The most characters of a scheme. -/
def maxSchemeSize : Nat := 64

/-- Cuts the scheme off, if there is one. The two schemes of the web are known in any case. A
scheme that is too long is refused. -/
def splitScheme? (s : List Char) : Option (Option String × List Char) :=
  let name := s.takeWhile isSchemeChar
  match s.drop name.length with
  | ':' :: '/' :: '/' :: rest =>
    let lower := String.ofList (name.map Text.lowerAscii)
    if lower = "http" ∨ lower = "https" then some (some lower, rest)
    else if name.length > maxSchemeSize then none
    else if s.length ≤ 3 then some (none, s)
    else some (some (String.ofList name), rest)
  | _ => some (none, s)

/-- The characters of an authority beside letters and digits. -/
def authorityMarks : List Char := "!$&'()*+,-.:;=@[]_~%".toList

/-- What was seen of an authority. Colons and percent signs are forgotten behind a user and behind
the brackets of an address. -/
structure AuthorityScan where
  colons : Nat := 0
  percent : Bool := false
  opened : Bool := false
  closed : Bool := false

/-- The most colons in a row of characters that has not been recognized yet. -/
def maxColons : Nat := 8

/-- Reads one character of an authority. -/
def AuthorityScan.next? (a : AuthorityScan) (c : Char) : Option AuthorityScan :=
  if !(c.isAlphanum || authorityMarks.contains c) then none
  else if c = ':' then
    if a.colons < maxColons then some { a with colons := a.colons + 1 } else none
  else if c = '[' then if a.percent || a.opened then none else some { a with opened := true }
  else if c = ']' then
    if !a.opened || a.closed then none
    else some { a with closed := true, colons := 0, percent := false }
  else if c = '@' then some { a with colons := 0, percent := false }
  else if c = '%' then some { a with percent := true }
  else some a

/-- Whether characters are an authority: brackets close, one colon at most stands before the port,
no percent sign is in the host, and a user does not stand alone. -/
def isAuthority (s : List Char) : Bool :=
  match s.foldlM AuthorityScan.next? {} with
  | some a => a.opened == a.closed && a.colons ≤ 1 && !a.percent && s.getLast? != some '@'
  | none => false

/-- Whether a character ends an authority. -/
def endsAuthority (c : Char) : Bool :=
  c = '/' || c = '?' || c = '#'

/-- The path and the query of a target. -/
def sent (target : List Char) : String :=
  String.ofList (target.takeWhile (· ≠ '#'))

/-- The URI that a text spells. -/
def ofText? (text : String) : Option Uri :=
  if text.isEmpty || maxTargetSize < text.utf8ByteSize then none
  else if text = "*" then some { target := text }
  else
    let chars := text.toList
    if chars.head? = some '/' then
      if isTarget text then some { target := sent chars } else none
    else do
      let (scheme?, rest) ← splitScheme? chars
      let authority := rest.takeWhile fun c => !endsAuthority c
      let target := rest.drop authority.length
      if authority.isEmpty || !isAuthority authority then none
      if scheme?.isNone && !target.isEmpty then none
      if !isTarget (String.ofList target) then none
      return { scheme?, authority := String.ofList authority, target := sent target }

/-- Whether a server can be reached under the URI. -/
def isAbsolute (u : Uri) : Bool :=
  u.scheme?.isSome

/-- The text of a URI. Behind a scheme an empty path is written as a slash. -/
def text (u : Uri) : String :=
  let scheme := match u.scheme? with
    | some s => s ++ "://"
    | none => ""
  let slash := u.isAbsolute && u.target.toList.head? != some '/'
  scheme ++ u.authority ++ (if slash then "/" else "") ++ u.target

end Uri

end FleetGate.Net
