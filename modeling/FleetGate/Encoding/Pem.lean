import FleetGate.Encoding.Base64
import FleetGate.Text.Class
import FleetGate.Text.Search

/-!
# PEM sections

Bytes as Base64 text between a `BEGIN` and an `END` line that carry the same label. Text outside of
sections is skipped, and a section without its end is none. Bytes of the text are taken as
characters one by one, since all that counts is ASCII.
-/

namespace FleetGate.Encoding

/-- The bytes that stand under a label. -/
structure PemSection where
  label : String
  content : List UInt8
  deriving DecidableEq, Repr

namespace PemSection

/-- What opens a section, before its label. -/
def opening : List Char := "-----BEGIN ".toList

/-- What closes a section, before its label. -/
def closing : List Char := "-----END ".toList

/-- What ends a label. -/
def rule : List Char := "-----".toList

/-- The label and the text of the first section, the label of its end, and what follows. -/
def split? (s : List Char) : Option (List Char × List Char × List Char × List Char) := do
  let (_, s) ← Text.splitOnce? opening s
  let (label, s) ← Text.splitOnce? rule s
  let (text, s) ← Text.splitOnce? closing s
  let (last, s) ← Text.splitOnce? rule s
  return (label, text, last, s)

/-- The Base64 text of a section, which a blank line parts from headers. -/
def body (text : List Char) : List Char :=
  let text := Text.trimStartChars text
  match Text.splitOnce? ['\n', '\n'] text, Text.splitOnce? ['\r', '\n', '\r', '\n'] text with
  | some (_, body), _ => body
  | none, some (_, body) => body
  | none, none => text

/-- A section from its parts. -/
def ofParts? (label text last : List Char) : Option PemSection := do
  if label.isEmpty || label != last then none
  let content ← bytesOfBase64? ((body text).filter fun c => !Text.isSpace c)
  return { label := String.ofList label, content }

/-- The sections of a text, at most `fuel` of them; none if one is malformed. -/
def all? : Nat → List Char → Option (List PemSection)
  | 0, _ => some []
  | fuel + 1, s =>
    match split? s with
    | none => some []
    | some (label, text, last, rest) => do
      let first ← ofParts? label text last
      let others ← all? fuel rest
      return first :: others

/-- The sections of bytes, if all are well formed. -/
def ofBytes? (bytes : List UInt8) : Option (List PemSection) :=
  all? bytes.length (bytes.map fun b => Char.ofNat b.toNat)

/-- Whether bytes are one DER sequence with nothing behind it, as a certificate or a key is. -/
def isSequence (bytes : List UInt8) : Bool :=
  match bytes with
  | tag :: size :: rest =>
    let width := size.toNat - 0x80
    let length := if size < 0x80 then size.toNat
      else (rest.take width).foldl (fun n b => n * 256 + b.toNat) 0
    tag == 0x30 && size != 0x80 && rest.length == width + length && length != 0
  | _ => false

end PemSection

end FleetGate.Encoding
