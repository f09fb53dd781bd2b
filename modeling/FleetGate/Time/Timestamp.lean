import FleetGate.Number.Numeral
import FleetGate.Text.Class
import FleetGate.Text.Search
import FleetGate.Time.Calendar

/-!
# Timestamps

A point in time to the nanosecond and its RFC 3339 text.

The reader is relaxed: one or two digits may stand for month, day, hour, minute and second, blanks
may surround the separators, a space or a small `t` may separate date and time, digits past the
ninth of a fraction are dropped, and `UTC` may replace the offset. A second of 60 is a leap second,
kept as 59 with a second's worth of nanoseconds more.
-/

namespace FleetGate.Time

/-- A point in time: seconds since 1970-01-01T00:00:00Z and nanoseconds past them. -/
structure Timestamp where
  seconds : Int
  nanos : Nat := 0
  deriving DecidableEq, Repr, Inhabited

namespace Timestamp

/-- Nanoseconds of a second. -/
def nanosPerSecond : Nat := 1000000000

/-- The second of the day. -/
def clock (t : Timestamp) : Int := t.seconds % 86400

/-- Whether the timestamp lies in a leap second. -/
def isLeap (t : Timestamp) : Bool := nanosPerSecond ≤ t.nanos

/-- The nanoseconds from `t` to `now`, negative when `t` lies ahead. Of two times of day the
earlier one counts its leap second, if it lies in one. -/
def nanosSince (t now : Timestamp) : Int :=
  let leap : Int :=
    if t.clock < now.clock ∧ t.isLeap then 1
    else if now.clock < t.clock ∧ now.isLeap then -1
    else 0
  (now.seconds - t.seconds + leap) * nanosPerSecond + ((now.nanos : Int) - t.nanos)

namespace Reader

/-- Drops white space in front. -/
def skip (s : List Char) : List Char := Text.trimStartChars s

/-- At most `width` digits after white space, at least one. -/
def number? (width : Nat) (s : List Char) : Option (Nat × List Char) :=
  let s := skip s
  let ds := (s.takeWhile Char.isDigit).take width
  (Number.natOfDigits? ds).map fun n => (n, s.drop ds.length)

/-- A year: four digits at most, or any number of them after a sign. -/
def year? (s : List Char) : Option (Int × List Char) :=
  match skip s with
  | '-' :: rest => (number? rest.length rest).bind fun (n, after) =>
    if rest.head?.any Char.isDigit then some (-(n : Int), after) else none
  | '+' :: rest => (number? rest.length rest).bind fun (n, after) =>
    if rest.head?.any Char.isDigit then some ((n : Int), after) else none
  | rest => (number? 4 rest).map fun (n, after) => ((n : Int), after)

/-- A separator after white space. -/
def separator? (c : Char) (s : List Char) : Option (List Char) :=
  match skip s with
  | d :: rest => if d = c then some rest else none
  | [] => none

/-- The nanoseconds of a fraction's digits, cut after the ninth. -/
def nanosOfDigits (ds : List Char) : Nat :=
  let kept := ds.take 9
  (Number.natOfDigits? kept).getD 0 * Nat.pow 10 (9 - kept.length)

/-- A fraction of a second, if a point follows. -/
def fraction? : List Char → Option (Nat × List Char)
  | '.' :: rest =>
    let ds := rest.takeWhile Char.isDigit
    if ds.isEmpty then none else some (nanosOfDigits ds, rest.drop ds.length)
  | rest => some (0, rest)

/-- Two digits. -/
def twoDigits? : List Char → Option (Nat × List Char)
  | a :: b :: rest => do
    let a ← Number.digitValue? a
    let b ← Number.digitValue? b
    return (10 * a + b, rest)
  | _ => none

/-- The seconds by which local time is ahead: `Z`, `UTC`, or a sign with hours and minutes. -/
def offset? (s : List Char) : Option (Int × List Char) :=
  let signed (sign : Int) (rest : List Char) : Option (Int × List Char) := do
    let (hours, rest) ← twoDigits? rest
    let (minutes, rest) ← twoDigits? (rest.dropWhile fun c => c = ':' || Text.isSpace c)
    if minutes ≥ 60 ∨ hours ≥ 24 then none
    return (sign * (hours * 3600 + minutes * 60 : Nat), rest)
  match s with
  | 'Z' :: rest | 'z' :: rest => some (0, rest)
  | '+' :: rest => signed 1 rest
  | '-' :: rest => signed (-1) rest
  | '−' :: rest => signed (-1) rest
  | u :: t :: c :: rest =>
    if u.toLower = 'u' ∧ t.toLower = 't' ∧ c.toLower = 'c' then some (0, rest) else none
  | _ => none

end Reader

/-- Whether a year is one that timestamps reach. -/
def inCalendar (year : Int) : Bool := -262143 ≤ year && year ≤ 262142

open Reader in
/-- Reads the text of a timestamp. Both its local date and that in UTC must be within reach. -/
def parse? (text : String) : Option Timestamp := do
  let (year, s) ← year? text.toList
  let s ← separator? '-' s
  let (month, s) ← number? 2 s
  let s ← separator? '-' s
  let (day, s) ← number? 2 s
  let s ← match s with
    | c :: rest => if c = 'T' ∨ c = 't' ∨ c = ' ' then some rest else none
    | [] => none
  let (hour, s) ← number? 2 s
  let s ← separator? ':' s
  let (minute, s) ← number? 2 s
  let s ← separator? ':' s
  let (second, s) ← number? 2 s
  let (nanos, s) ← fraction? s
  let (offset, s) ← offset? (skip s)
  if !(skip s).isEmpty then none
  if month < 1 ∨ 12 < month ∨ day < 1 ∨ daysInMonth year month < day then none
  if hour ≥ 24 ∨ minute ≥ 60 ∨ second > 60 then none
  if !inCalendar year then none
  let leap := if second = 60 then 1 else 0
  let clock : Nat := hour * 3600 + minute * 60 + (second - leap)
  let seconds := daysOf { year, month, day } * 86400 + clock - offset
  if !inCalendar (dateOf (seconds / 86400)).year then none
  return { seconds, nanos := nanos + leap * nanosPerSecond }

/-- A number with at least `width` digits. -/
def pad (width n : Nat) : List Char :=
  let ds := Number.natText n
  List.replicate (width - ds.length) '0' ++ ds

/-- Date and time of day in UTC, without fraction and zone. -/
def secondsText (t : Timestamp) : List Char :=
  let date := dateOf (t.seconds / 86400)
  let clock := (t.seconds % 86400).toNat
  let year :=
    if 0 ≤ date.year ∧ date.year ≤ 9999 then pad 4 date.year.toNat
    else (if date.year < 0 then '-' else '+') :: pad 5 date.year.natAbs
  let leap := if t.nanos ≥ nanosPerSecond then 1 else 0
  year ++ '-' :: pad 2 date.month ++ '-' :: pad 2 date.day ++ 'T' :: pad 2 (clock / 3600) ++
    ':' :: pad 2 (clock / 60 % 60) ++ ':' :: pad 2 (clock % 60 + leap)

/-- The text in UTC to the second. -/
def text (t : Timestamp) : String :=
  String.ofList (t.secondsText ++ ['Z'])

/-- The text in UTC with as many of 0, 3, 6 or 9 digits of a fraction as it needs. -/
def preciseText (t : Timestamp) : String :=
  let nanos := t.nanos % nanosPerSecond
  let fraction :=
    if nanos = 0 then []
    else if nanos % 1000000 = 0 then '.' :: pad 3 (nanos / 1000000)
    else if nanos % 1000 = 0 then '.' :: pad 6 (nanos / 1000)
    else '.' :: pad 9 nanos
  String.ofList (t.secondsText ++ fraction ++ ['Z'])

end Timestamp

end FleetGate.Time
