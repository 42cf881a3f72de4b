import DeviceOnboard.Decimal.Binary64

/-!
# Plain scalars that are not strings

A plain scalar of a YAML document may be read as null, as a truth value, as an integer or as a
floating point number. A string that looks like one of these has to be quoted.
-/
namespace DeviceOnboard.Yaml

def isNullWord (s : String) : Bool := s = "null" || s = "Null" || s = "NULL" || s = "~"

def isBoolWord (s : String) : Bool :=
  s = "true" || s = "True" || s = "TRUE" || s = "false" || s = "False" || s = "FALSE"

/-! ## Integers -/

def digitIn? (base : Nat) (c : Char) : Option Nat :=
  let d := if '0' ≤ c && c ≤ '9' then c.toNat - 48
    else if 'a' ≤ c && c ≤ 'z' then c.toNat - 87
    else if 'A' ≤ c && c ≤ 'Z' then c.toNat - 55
    else base
  if d < base then some d else none

/-- The value of one or more digits in a base. -/
def digitsIn? (base : Nat) : List Char → Option Nat
  | [] => none
  | cs => cs.foldl (fun n c => n.bind fun n => (digitIn? base c).map (n * base + ·)) (some 0)

/-- The value of an unsigned integer, which may have a base in front. -/
def magnitude? : List Char → Option Nat
  | '0' :: 'x' :: cs => digitsIn? 16 cs
  | '0' :: 'o' :: cs => digitsIn? 8 cs
  | '0' :: 'b' :: cs => digitsIn? 2 cs
  | cs => digitsIn? 10 cs

/-- Integers that fit 128 bits: unsigned ones, and signed ones after a minus. -/
def isInteger (s : String) : Bool :=
  match s.toList with
  | '-' :: cs => (magnitude? cs).any (· ≤ Nat.pow 2 127)
  | '+' :: cs => (magnitude? cs).any (· < Nat.pow 2 128)
  | cs => (magnitude? cs).any (· < Nat.pow 2 128)

/-- Digits with a zero in front, after an optional sign. -/
def isZeroPadded (s : String) : Bool :=
  let digits := match s.toList with
    | '-' :: cs => cs
    | '+' :: cs => cs
    | cs => cs
  match digits with
  | '0' :: d :: ds => (d :: ds).all Char.isDigit
  | _ => false

/-! ## Floating point numbers -/

def isInfinityWord (s : String) : Bool := s = ".inf" || s = ".Inf" || s = ".INF"

def isNanWord (s : String) : Bool := s = ".nan" || s = ".NaN" || s = ".NAN"

/-- The digits of a decimal and its power of ten: `digits * 10 ^ exponent`. -/
structure DecimalText where
  digits : List Char
  exponent : Int

/-- An optional exponent of ten. -/
def exponent? : List Char → Option Int
  | [] => some 0
  | c :: cs =>
    if c = 'e' || c = 'E' then
      match cs with
      | '-' :: ds => (digitsIn? 10 ds).map fun n => -(n : Int)
      | '+' :: ds => (digitsIn? 10 ds).map fun n => (n : Int)
      | ds => (digitsIn? 10 ds).map fun n => (n : Int)
    else none

/-- An unsigned decimal with a digit on at least one side of its point. -/
def decimal? (cs : List Char) : Option DecimalText :=
  let whole := cs.takeWhile Char.isDigit
  let rest := cs.dropWhile Char.isDigit
  let (fraction, rest) := match rest with
    | '.' :: r => (r.takeWhile Char.isDigit, r.dropWhile Char.isDigit)
    | r => ([], r)
  if whole.isEmpty && fraction.isEmpty then none
  else (exponent? rest).map fun e => ⟨whole ++ fraction, e - fraction.length⟩

/-- Whether a decimal rounds to a double that is not infinite. -/
def DecimalText.isFinite (d : DecimalText) : Bool :=
  let digits := d.digits.dropWhile (· = '0')
  let lead := d.exponent + digits.length
  if digits.isEmpty || lead < 300 then true
  else if 400 < lead then false
  else
    let n := (digitsIn? 10 digits).getD 0
    let (num, den) := Decimal.scale 10 d.exponent n 1
    num < (Nat.pow 2 1024 - Nat.pow 2 970) * den

/-- Numbers with an optional sign, infinities, and the words for what is not a number. -/
def isFloat (s : String) : Bool :=
  isNanWord s ||
    match s.toList with
    | '-' :: cs => isInfinityWord (String.ofList cs) || (decimal? cs).any DecimalText.isFinite
    | '+' :: cs => isInfinityWord (String.ofList cs) || (decimal? cs).any DecimalText.isFinite
    | cs => isInfinityWord s || (decimal? cs).any DecimalText.isFinite

/-- Whether a string would be read as something else if it stood in a document as it is. -/
def needsQuotes (s : String) : Bool :=
  s = "" || isNullWord s || isBoolWord s || isInteger s || isZeroPadded s || isFloat s

end DeviceOnboard.Yaml
