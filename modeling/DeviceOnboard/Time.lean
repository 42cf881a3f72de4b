import DeviceOnboard.Text.Blank

/-!
# Points in time

Times are read from RFC 3339 text with an offset and an optional fraction, are compared with
their fraction, and are written in UTC with whole seconds. The reader is lenient: blanks may
stand between the parts, and a blank may stand for the `T`. A second numbered 60 is kept as a
fraction of one second or more.
-/
namespace DeviceOnboard

/-- Seconds since 1970-01-01T00:00:00Z, and billionths of a second on top of them. -/
structure Time where
  seconds : Int
  nanos : Nat
  deriving DecidableEq, Repr, Inhabited

namespace Time

/-- Reasons for which a text is not a time. -/
inductive Error where
  | tooShort | invalid | outOfRange | impossible | trailing
  deriving DecidableEq, Repr

def Error.message : Error → String
  | tooShort => "premature end of input"
  | invalid => "input contains invalid characters"
  | outOfRange => "input is out of range"
  | impossible => "no possible date and time matching input"
  | trailing => "trailing input"

/-! ## The calendar -/

def isLeapYear (y : Int) : Bool := y % 4 = 0 && (y % 100 ≠ 0 || y % 400 = 0)

def daysInMonth (y : Int) (m : Nat) : Nat :=
  match m with
  | 4 | 6 | 9 | 11 => 30
  | 2 => if isLeapYear y then 29 else 28
  | _ => 31

/-- The days from 1970-01-01 to a date. Years are counted from March, so that the leap day is the
last day of a year, and days from the 400-year era they fall into. -/
def daysFromDate (y : Int) (m d : Nat) : Int :=
  let y := if m ≤ 2 then y - 1 else y
  let era := y / 400
  let yearOfEra := y % 400
  let monthFromMarch : Int := if 2 < m then m - 3 else m + 9
  let dayOfYear := (153 * monthFromMarch + 2) / 5 + d - 1
  let dayOfEra := yearOfEra * 365 + yearOfEra / 4 - yearOfEra / 100 + dayOfYear
  era * 146097 + dayOfEra - 719468

/-- The date a number of days after 1970-01-01. -/
def dateOfDays (days : Int) : Int × Nat × Nat :=
  let z := days + 719468
  let era := z / 146097
  let dayOfEra := z % 146097
  let yearOfEra := (dayOfEra - dayOfEra / 1460 + dayOfEra / 36524 - dayOfEra / 146096) / 365
  let dayOfYear := dayOfEra - (365 * yearOfEra + yearOfEra / 4 - yearOfEra / 100)
  let monthFromMarch := (5 * dayOfYear + 2) / 153
  let d := dayOfYear - (153 * monthFromMarch + 2) / 5 + 1
  let m := if monthFromMarch < 10 then monthFromMarch + 3 else monthFromMarch - 9
  let y := yearOfEra + era * 400
  (if m ≤ 2 then y + 1 else y, m.toNat, d.toNat)

/-! ## Writing -/

/-- The decimal digits of a number, padded with zeros to a width. -/
def padded (width n : Nat) : String :=
  let ds := Nat.toDigits 10 n
  String.ofList (List.replicate (width - ds.length) '0' ++ ds)

/-- Years of more or less than four digits carry a sign. -/
def yearText (y : Int) : String :=
  if 0 ≤ y && y ≤ 9999 then padded 4 y.toNat
  else (if y < 0 then "-" else "+") ++ padded 4 y.natAbs

/-- The time in UTC with whole seconds. -/
def text (t : Time) : String :=
  let (y, m, d) := dateOfDays (t.seconds / 86400)
  let s := (t.seconds % 86400).toNat
  let second := s % 60 + (if 1000000000 ≤ t.nanos then 1 else 0)
  yearText y ++ "-" ++ padded 2 m ++ "-" ++ padded 2 d ++ "T" ++ padded 2 (s / 3600) ++ ":"
    ++ padded 2 (s / 60 % 60) ++ ":" ++ padded 2 second ++ "Z"

/-! ## Reading -/

abbrev Parse (α : Type) := Except Error (α × List Char)

def skipBlank (cs : List Char) : List Char := cs.dropWhile Text.isBlank

def isDigit (c : Char) : Bool := '0' ≤ c && c ≤ '9'

def digitsValue (ds : List Char) : Nat := ds.foldl (fun n c => n * 10 + (c.toNat - 48)) 0

/-- A number of at least one and at most `width` digits. -/
def number (width : Nat) (cs : List Char) : Parse Nat :=
  let ds := (cs.take width).takeWhile isDigit
  match cs, ds with
  | [], _ => .error .tooShort
  | _ :: _, [] => .error .invalid
  | _ :: _, _ :: _ => .ok (digitsValue ds, cs.drop ds.length)

/-- A number with any count of digits, below `2 ^ 63`. -/
def longNumber (cs : List Char) : Parse Nat :=
  match number cs.length cs with
  | .error e => .error e
  | .ok (n, rest) => if n < Nat.pow 2 63 then .ok (n, rest) else .error .outOfRange

/-- A number of two digits in a range. -/
def part (low high : Nat) (cs : List Char) : Parse Nat :=
  match number 2 (skipBlank cs) with
  | .error e => .error e
  | .ok (n, rest) => if low ≤ n && n ≤ high then .ok (n, rest) else .error .outOfRange

/-- A year of up to four digits, or of any length after a sign. -/
def signedYear (cs : List Char) : Parse Int :=
  match cs with
  | '-' :: rest => (longNumber rest).map fun p => (-(p.1 : Int), p.2)
  | '+' :: rest => (longNumber rest).map fun p => ((p.1 : Int), p.2)
  | _ => (number 4 cs).map fun p => ((p.1 : Int), p.2)

/-- A year that fits 32 bits. -/
def year (cs : List Char) : Parse Int :=
  match signedYear (skipBlank cs) with
  | .error e => .error e
  | .ok (y, rest) =>
    if -2147483648 ≤ y && y ≤ 2147483647 then .ok (y, rest) else .error .outOfRange

/-- A separator, which blanks may precede. -/
def separator (c : Char) (cs : List Char) : Except Error (List Char) :=
  match skipBlank cs with
  | [] => .error .tooShort
  | d :: rest => if d = c then .ok rest else .error .invalid

/-- The fraction of a second in billionths; further digits are dropped. -/
def fraction : List Char → Parse Nat
  | '.' :: cs =>
    match number 9 cs with
    | .error e => .error e
    | .ok (n, rest) =>
      .ok (n * Nat.pow 10 (9 - (cs.length - rest.length)), rest.dropWhile isDigit)
  | cs => .ok (0, cs)

def twoDigits (cs : List Char) : Except Error (Nat × Nat × List Char) :=
  match cs with
  | a :: b :: rest =>
    if isDigit a && isDigit b then .ok (a.toNat - 48, b.toNat - 48, rest) else .error .invalid
  | [a] => if a.toNat < 0x80 then .error .tooShort else .error .invalid
  | [] => .error .tooShort

/-- Hours and minutes in seconds. -/
def hoursMinutes (cs : List Char) : Except Error (Nat × List Char) := do
  let (h1, h2, rest) ← twoDigits cs
  let (m1, m2, rest) ← twoDigits (rest.dropWhile fun c => c = ':' || Text.isBlank c)
  if 6 ≤ m1 then .error .outOfRange
  else return ((h1 * 10 + h2) * 3600 + (m1 * 10 + m2) * 60, rest)

/-- An offset from UTC in seconds. -/
def offset (cs : List Char) : Parse Int :=
  match cs with
  | [] => .error .tooShort
  | c :: rest =>
    if c = 'Z' || c = 'z' then .ok (0, rest)
    else if c = '+' then (hoursMinutes rest).map fun p => ((p.1 : Int), p.2)
    else if c = '-' || c = '\u2212' then (hoursMinutes rest).map fun p => (-(p.1 : Int), p.2)
    else .error .invalid

/-- An offset, or the letters `UTC` in either case. -/
def zone (cs : List Char) : Parse Int :=
  match cs with
  | a :: b :: c :: rest =>
    if a.toUpper = 'U' && b.toUpper = 'T' && c.toUpper = 'C' then .ok (0, rest) else offset cs
  | _ => offset cs

/-- Years that a time can lie in. -/
def yearInRange (y : Int) : Bool := -262143 ≤ y && y ≤ 262142

/-- Reads a time. -/
def ofText (s : String) : Except Error Time := do
  let (y, cs) ← year s.toList
  let cs ← separator '-' cs
  let (m, cs) ← part 1 12 cs
  let cs ← separator '-' cs
  let (d, cs) ← part 1 31 cs
  let cs ← match cs with
    | [] => .error .tooShort
    | c :: rest => if c = 'T' || c = 't' || c = ' ' then .ok rest else .error .invalid
  let (hour, cs) ← part 0 23 cs
  let cs ← separator ':' cs
  let (minute, cs) ← part 0 59 cs
  let cs ← separator ':' cs
  let (second, cs) ← part 0 60 cs
  let (nanos, cs) ← fraction cs
  let (shift, cs) ← zone (skipBlank cs)
  if !(skipBlank cs).isEmpty then .error .trailing
  else if !yearInRange y || daysInMonth y m < d || 86400 ≤ shift.natAbs then .error .outOfRange
  else
    let (second, nanos) := if second = 60 then (59, nanos + 1000000000) else (second, nanos)
    let seconds := daysFromDate y m d * 86400 + (hour * 3600 + minute * 60 + second : Nat) - shift
    if yearInRange (dateOfDays (seconds / 86400)).1 then .ok ⟨seconds, nanos⟩
    else .error .impossible

end Time

end DeviceOnboard
