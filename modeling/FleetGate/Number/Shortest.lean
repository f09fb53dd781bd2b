import FleetGate.Number.Numeral

/-!
# Shortest decimal of a binary fraction

A finite binary64 number is `m · 2^q`. The reals that round to it form an interval around it; the
shortest decimal is the one with fewest digits inside that interval, and the nearest of those. For
each digit count the two neighbours of the value on that decimal grid are tried in exact
arithmetic, so nothing depends on the precision of the machine.

The written form keeps a point in positional notation (`1.0`, `0.001`) for exponents from -5 to 16
and uses `e` with a signed exponent outside (`1e+17`, `2.5e-7`).
-/

namespace FleetGate.Number

/-- A finite magnitude `mantissa · 2^exponent`. -/
structure Dyadic where
  mantissa : Nat
  exponent : Int
  deriving DecidableEq

/-- `2^52`: how many fractions there are between two powers of two. -/
def fractionRange : Nat := 4503599627370496

/-- `2^63`: the weight of the sign. -/
def signBit : Nat := 9223372036854775808

/-- Splits the bits of a binary64 number, its sign left out. -/
def Dyadic.ofBits (bits : Nat) : Dyadic :=
  let fraction : Nat := bits % fractionRange
  let biased : Nat := bits / fractionRange % 2048
  if biased = 0 then ⟨fraction, -1074⟩ else ⟨fractionRange + fraction, (biased : Int) - 1075⟩

/-- A decimal `digits · 10^exponent`. -/
structure Decimal where
  digits : Nat
  exponent : Int
  deriving DecidableEq

/-- The numbers `a`, `b` with `a / b = m · 2^q · 10^(-p)`. -/
private def scaled (m : Nat) (q p : Int) : Nat × Nat :=
  let num := m * Nat.pow 2 q.toNat * Nat.pow 10 (-p).toNat
  let den := Nat.pow 2 (-q).toNat * Nat.pow 10 p.toNat
  (num, den)

/-- Whether `d · 10^p` rounds to the magnitude: it lies between the midpoints to the neighbours,
the midpoints themselves counting when the mantissa is even. -/
def Dyadic.covers (x : Dyadic) (d : Nat) (p : Int) : Bool :=
  -- Everything is compared in quarters of the unit in the last place.
  let lowQuarters := if x.mantissa = fractionRange && x.exponent > -1074 then 4 * x.mantissa - 1
    else 4 * x.mantissa - 2
  let highQuarters := 4 * x.mantissa + 2
  let (lowNum, lowDen) := scaled lowQuarters (x.exponent - 2) p
  let (highNum, highDen) := scaled highQuarters (x.exponent - 2) p
  if x.mantissa % 2 = 0 then lowNum ≤ d * lowDen && d * highDen ≤ highNum
  else lowNum < d * lowDen && d * highDen < highNum

/-- The best decimal on the grid of multiples of `10^p`, if one rounds to the magnitude. -/
def Dyadic.onGrid? (x : Dyadic) (p : Int) : Option Decimal :=
  let (num, den) := scaled x.mantissa x.exponent p
  let below := num / den
  let rest := num % den
  let belowFits := x.covers below p
  let aboveFits := x.covers (below + 1) p
  let nearerBelow := 2 * rest < den || (2 * rest == den && below % 2 == 0)
  if belowFits && (nearerBelow || !aboveFits) then some ⟨below, p⟩
  else if aboveFits then some ⟨below + 1, p⟩
  else none

/-- Tries the grids from coarse to fine, `fuel` of them. -/
private def Dyadic.search (x : Dyadic) (p : Int) : Nat → Decimal
  | 0 => ⟨0, 0⟩
  | fuel + 1 =>
    match x.onGrid? p with
    | some d => d
    | none => x.search (p - 1) fuel

/-- Takes the zeros off the end of the digits, at most `fuel` of them. -/
private def Decimal.strip (d : Decimal) : Nat → Decimal
  | 0 => d
  | fuel + 1 =>
    if d.digits % 10 = 0 && d.digits ≠ 0 then
      Decimal.strip ⟨d.digits / 10, d.exponent + 1⟩ fuel
    else d

/-- The shortest decimal that rounds to the magnitude. The leading digit of the value stands at
most at the place of `2^(log2 m + q + 1)`, from where at most 20 places have to be tried. -/
def Dyadic.shortest (x : Dyadic) : Decimal :=
  if x.mantissa = 0 then ⟨0, 0⟩
  else
    let top := (x.mantissa.log2 : Int) + x.exponent + 1
    let place := top * 30103 / 100000 + 1
    (x.search place 24).strip 24

/-- The written form of a decimal. -/
def Decimal.text (d : Decimal) : List Char :=
  let ds := natText d.digits
  let n : Int := ds.length
  let point := n + d.exponent
  if d.digits = 0 then ['0', '.', '0']
  else if 0 ≤ d.exponent ∧ point ≤ 16 then
    ds ++ List.replicate d.exponent.toNat '0' ++ ['.', '0']
  else if 0 < point ∧ point ≤ 16 then
    ds.take point.toNat ++ ['.'] ++ ds.drop point.toNat
  else if -5 < point ∧ point ≤ 0 then
    ['0', '.'] ++ List.replicate (-point).toNat '0' ++ ds
  else
    let mantissa := match ds with
      | [c] => [c]
      | c :: rest => c :: '.' :: rest
      | [] => []
    let sign := if 0 < point then ['e', '+'] else ['e']
    mantissa ++ sign ++ intText (point - 1)

/-- The written form of a finite binary64 number. -/
def floatText (x : Float) : List Char :=
  let bits := x.toBits.toNat
  let text := (Dyadic.ofBits (bits % signBit)).shortest.text
  if bits < signBit then text else '-' :: text

end FleetGate.Number
