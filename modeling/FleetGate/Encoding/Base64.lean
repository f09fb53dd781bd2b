/-!
# Base64 bytes

Four characters to three bytes. The last group is filled up with equals signs, and the bits that
these leave unused must be zero, so that bytes have one written form.
-/

namespace FleetGate.Encoding

/-- The six bits of a character. -/
def sextet? (c : Char) : Option Nat :=
  if 'A' ≤ c ∧ c ≤ 'Z' then some (c.toNat - 'A'.toNat)
  else if 'a' ≤ c ∧ c ≤ 'z' then some (c.toNat - 'a'.toNat + 26)
  else if '0' ≤ c ∧ c ≤ '9' then some (c.toNat - '0'.toNat + 52)
  else if c = '+' then some 62
  else if c = '/' then some 63
  else none

/-- The bytes of Base64 text. -/
def bytesOfBase64? : List Char → Option (List UInt8)
  | [] => some []
  | [a, b, '=', '='] => do
    let w ← sextet? a
    let x ← sextet? b
    if x % 16 = 0 then return [UInt8.ofNat (4 * w + x / 16)]
    none
  | [a, b, c, '='] => do
    let w ← sextet? a
    let x ← sextet? b
    let y ← sextet? c
    if y % 4 = 0 then return [UInt8.ofNat (4 * w + x / 16), UInt8.ofNat (16 * (x % 16) + y / 4)]
    none
  | a :: b :: c :: d :: rest => do
    let w ← sextet? a
    let x ← sextet? b
    let y ← sextet? c
    let z ← sextet? d
    let bytes ← bytesOfBase64? rest
    return UInt8.ofNat (4 * w + x / 16) :: UInt8.ofNat (16 * (x % 16) + y / 4) ::
      UInt8.ofNat (64 * (y % 4) + z) :: bytes
  | _ => none

end FleetGate.Encoding
