/-!
# Double precision numbers as integers

A finite double precision number is a sign, a significand and a power of two, all of them
integers, so that rounding is exact arithmetic. `ofRatio?` rounds a quotient to the nearest
double, a tie going to the even significand; `ofLiteral?` reads the digits of a literal; and
`shortest` finds the fewest decimal digits that read back as the same number.
-/
namespace DeviceOnboard.Decimal

/-- The number `significand * 2 ^ exponent`, negated when `negative` is set. -/
structure Binary64 where
  negative : Bool
  significand : Nat
  exponent : Int
  deriving DecidableEq, Repr, Inhabited

/-- The fraction `num / den * base ^ e`, again as numerator and denominator. -/
def scale (base : Nat) (e : Int) (num den : Nat) : Nat × Nat :=
  if 0 ≤ e then (num * Nat.pow base e.toNat, den) else (num, den * Nat.pow base (-e).toNat)

/-- The integer nearest to `num / den`; a half goes to the even neighbour. -/
def roundHalfEven (num den : Nat) : Nat :=
  let q := num / den
  let r := num % den
  if den < 2 * r || (den = 2 * r && q % 2 = 1) then q + 1 else q

namespace Binary64

def zero (negative : Bool) : Binary64 := ⟨negative, 0, -1074⟩

/-- The exponent at which `num / den` has a significand of 53 bits, or the least exponent. -/
def exponentOf (num den : Nat) : Int :=
  let k : Int := (num.log2 : Int) - den.log2
  let (n, d) := scale 2 (-k) num den
  max (if d ≤ n then k - 52 else k - 53) (-1074)

/-- The double nearest to `num / den`, if it does not exceed the largest one. -/
def ofRatio? (negative : Bool) (num den : Nat) : Option Binary64 :=
  if num = 0 then some (zero negative)
  else
    let e := exponentOf num den
    let (n, d) := scale 2 (-e) num den
    let s := roundHalfEven n d
    let (s, e) := if s = Nat.pow 2 53 then (Nat.pow 2 52, e + 1) else (s, e)
    if 971 < e then none else some ⟨negative, s, e⟩

/-- The absolute value as a fraction. -/
def ratio (x : Binary64) : Nat × Nat := scale 2 x.exponent x.significand 1

/-- The double nearest to a power of ten. -/
def powerOfTen (k : Nat) : Binary64 := (ofRatio? false (Nat.pow 10 k) 1).getD default

/-- The product, with the sign of the first factor. -/
def mul? (x y : Binary64) : Option Binary64 :=
  ofRatio? x.negative (x.ratio.1 * y.ratio.1) (x.ratio.2 * y.ratio.2)

/-- The quotient, with the sign of the dividend. -/
def div? (x y : Binary64) : Option Binary64 :=
  ofRatio? x.negative (x.ratio.1 * y.ratio.2) (x.ratio.2 * y.ratio.1)

/-- The value of the literal `digits * 10 ^ e`. The digits and the power of ten are rounded on
their own before they are combined; a power beyond `10 ^ 308` is split in two. -/
def ofLiteral? (negative : Bool) (digits : Nat) (e : Int) : Option Binary64 :=
  match ofRatio? negative digits 1 with
  | none => none
  | some f =>
    if f.significand = 0 then some (zero negative)
    else if 308 < e then none
    else if 0 ≤ e then f.mul? (powerOfTen e.toNat)
    else if -308 ≤ e then f.div? (powerOfTen (-e).toNat)
    else if -616 ≤ e then
      (f.div? (powerOfTen 308)).bind fun g => g.div? (powerOfTen (-e - 308).toNat)
    else some (zero negative)

/-- The number of decimal digits. -/
def digitCount (n : Nat) : Nat := (Nat.toDigits 10 n).length

/-- The power of ten of the leading digit of `num / den`. -/
def leadingPower (num den : Nat) : Int :=
  let k : Int := (digitCount num : Int) - digitCount den
  let (n, d) := scale 10 (-k) num den
  if d ≤ n then k else k - 1

/-- Of the two neighbours of `x` on the grid of multiples of `10 ^ k`, the nearer one that reads
back as `x`. -/
def onGrid? (x : Binary64) (k : Int) : Option Nat :=
  let (num, den) := x.ratio
  let (n, d) := scale 10 (-k) num den
  let low := n / d
  let readsBack (m : Nat) : Bool :=
    let (p, q) := scale 10 k m 1
    ofRatio? x.negative p q = some x
  let nearFirst := if 2 * (n % d) ≤ d then [low, low + 1] else [low + 1, low]
  nearFirst.find? readsBack

/-- Digits `m` and a power `k` such that `m * 10 ^ k` reads back as `x`, the digits as few as can
be. -/
def shortest (x : Binary64) : Nat × Int :=
  let (num, den) := x.ratio
  if num = 0 then (0, 0)
  else
    let lead := leadingPower num den
    let grid (n : Nat) : Option (Nat × Int) :=
      let k := lead - n
      (x.onGrid? k).map fun m => if m = Nat.pow 10 (n + 1) then (1, k + n + 1) else (m, k)
    ((List.range 17).findSome? grid).getD (0, 0)

end Binary64

/-- How a double is written: positionally when the power of ten of its leading digit lies between
`lowest` and `highest`, and with an exponent otherwise. -/
structure FloatLayout where
  lowest : Int
  highest : Int
  deriving DecidableEq, Repr

/-- The digits `ds` with the point after the first `n` of them. -/
def pointAfter (ds : List Char) (n : Nat) : List Char :=
  if ds.length ≤ n then ds ++ List.replicate (n - ds.length) '0' ++ ['.', '0']
  else ds.take n ++ '.' :: ds.drop n

/-- The absolute value in the given layout, from its digits and the power of its leading digit. -/
def FloatLayout.write (layout : FloatLayout) (ds : List Char) (lead : Int) : List Char :=
  if layout.lowest ≤ lead && lead ≤ layout.highest then
    if lead < 0 then ['0', '.'] ++ List.replicate (-lead - 1).toNat '0' ++ ds
    else pointAfter ds (lead.toNat + 1)
  else
    let fraction := match ds.drop 1 with
      | [] => []
      | rest => '.' :: rest
    let sign := if lead < 0 then '-' else '+'
    ds.take 1 ++ fraction ++ ['e', sign] ++ Nat.toDigits 10 lead.natAbs

/-- The text of a double: the fewest digits that read back, always with a point or an exponent. -/
def FloatLayout.render (layout : FloatLayout) (x : Binary64) : String :=
  let (m, k) := x.shortest
  let ds := Nat.toDigits 10 m
  let body := layout.write ds (k + ds.length - 1)
  String.ofList (if x.negative then '-' :: body else body)

end DeviceOnboard.Decimal
