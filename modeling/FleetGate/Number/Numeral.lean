/-!
# Whole numbers in decimal

Reading and writing of whole numbers as digits. Readers take ASCII digits only and nothing around
them; a sign is read where the bounds allow one.
-/

namespace FleetGate.Number

/-- The value of an ASCII decimal digit. -/
def digitValue? (c : Char) : Option Nat :=
  if '0' ≤ c ∧ c ≤ '9' then some (c.toNat - '0'.toNat) else none

/-- The value of a list of digits, continuing from `value`. -/
def digitsValue? (value : Nat) : List Char → Option Nat
  | [] => some value
  | c :: rest =>
    match digitValue? c with
    | some d => digitsValue? (10 * value + d) rest
    | none => none

/-- A number written as at least one digit. -/
def natOfDigits? : List Char → Option Nat
  | [] => none
  | c :: rest => digitsValue? 0 (c :: rest)

/-- A number of at most `max`, written as digits after an optional plus sign. -/
def natUpTo? (max : Nat) (s : List Char) : Option Nat :=
  let digits := match s with
    | '+' :: rest => rest
    | _ => s
  (natOfDigits? digits).filter (· ≤ max)

/-- A number between `min` and `max`, written as digits after an optional sign. -/
def intBetween? (min max : Int) (s : List Char) : Option Int :=
  let value := match s with
    | '+' :: rest => (natOfDigits? rest).map Int.ofNat
    | '-' :: rest => (natOfDigits? rest).map fun n => -Int.ofNat n
    | _ => (natOfDigits? s).map Int.ofNat
  value.filter fun n => min ≤ n && n ≤ max

/-- The largest number of 64 unsigned bits. -/
def maxUnsigned64 : Nat := 18446744073709551615

/-- The smallest number of 64 signed bits. -/
def minSigned64 : Int := -9223372036854775808

/-- The largest number of 64 signed bits. -/
def maxSigned64 : Int := 9223372036854775807

/-- A number in decimal digits. -/
def natText (n : Nat) : List Char :=
  Nat.toDigits 10 n

/-- A number in decimal digits, with a minus sign if it is negative. -/
def intText : Int → List Char
  | .ofNat n => natText n
  | .negSucc n => '-' :: natText (n + 1)

/-- A natural number as decimal text. -/
def natString (n : Nat) : String :=
  String.ofList (natText n)

/-- A whole number as decimal text. -/
def intString (n : Int) : String :=
  String.ofList (intText n)

end FleetGate.Number
