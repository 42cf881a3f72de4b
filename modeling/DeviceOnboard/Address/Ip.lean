import DeviceOnboard.Text.Pieces

/-!
# IP addresses

IPv4 addresses are four octets in decimal. IPv6 addresses are eight groups of 16 bits in
hexadecimal, of which one run of zeros may be left out with `::`, and the last two groups may be
written as an IPv4 address. An address is printed in one canonical form: the first longest run of
at least two zero groups is left out, and an IPv4 address that is mapped into IPv6 is dotted.
-/
namespace DeviceOnboard

inductive Ip where
  | v4 (a b c d : UInt8)
  | v6 (groups : Vector UInt16 8)
  deriving DecidableEq, Repr

namespace Ip

/-! ## Reading -/

def decimalDigit? (c : Char) : Option Nat :=
  if '0' ≤ c && c ≤ '9' then some (c.toNat - 48) else none

def hexDigit? (c : Char) : Option Nat :=
  if '0' ≤ c && c ≤ '9' then some (c.toNat - 48)
  else if 'a' ≤ c && c ≤ 'f' then some (c.toNat - 87)
  else if 'A' ≤ c && c ≤ 'F' then some (c.toNat - 55)
  else none

/-- The value of digits in a base. -/
def number? (base : Nat) (digit? : Char → Option Nat) (value : Nat) : List Char → Option Nat
  | [] => some value
  | c :: cs => (digit? c).bind fun d => number? base digit? (value * base + d) cs

/-- An octet: one to three digits without a leading zero, at most 255. -/
def octet? (cs : List Char) : Option UInt8 :=
  if cs = [] || 3 < cs.length || (cs.head? = some '0' && 1 < cs.length) then none
  else (number? 10 decimalDigit? 0 cs).bind fun n => if n < 256 then some n.toUInt8 else none

/-- A group: one to four hexadecimal digits. -/
def group? (cs : List Char) : Option UInt16 :=
  if cs = [] || 4 < cs.length then none
  else (number? 16 hexDigit? 0 cs).map Nat.toUInt16

/-- Four octets between dots. -/
def octets? (cs : List Char) : Option (UInt8 × UInt8 × UInt8 × UInt8) :=
  match Text.pieces '.' cs with
  | [a, b, c, d] => do return (← octet? a, ← octet? b, ← octet? c, ← octet? d)
  | _ => none

def pair (high low : UInt8) : UInt16 := high.toUInt16 * 256 + low.toUInt16

/-- Groups between colons; if `dotted` is set, the last two may be written as four octets. -/
def groups? (dotted : Bool) : List (List Char) → Option (List UInt16)
  | [] => some []
  | [p] =>
    match group? p with
    | some g => some [g]
    | none =>
      if dotted then (octets? p).map fun (a, b, c, d) => [pair a b, pair c d] else none
  | p :: ps => do return (← group? p) :: (← groups? dotted ps)

/-- The groups of a part of an address, which may be empty next to a `::`. -/
def part? (dotted : Bool) (cs : List Char) : Option (List UInt16) :=
  if cs = [] then some [] else groups? dotted (Text.pieces ':' cs)

/-- The texts before and after the first `::`. -/
def splitGap : List Char → Option (List Char × List Char)
  | [] => none
  | [_] => none
  | a :: b :: cs =>
    if a = ':' && b = ':' then some ([], cs)
    else (splitGap (b :: cs)).map fun p => (a :: p.1, p.2)

/-- An address of eight groups. -/
def ofGroups? (groups : List UInt16) : Option Ip :=
  if h : groups.length = 8 then some (.v6 ⟨groups.toArray, by simpa using h⟩) else none

def v6? (cs : List Char) : Option Ip :=
  match splitGap cs with
  | none => (groups? true (Text.pieces ':' cs)).bind ofGroups?
  | some (front, back) => do
    let head ← part? false front
    let tail ← part? true back
    if head.length + tail.length < 8 then
      ofGroups? (head ++ List.replicate (8 - head.length - tail.length) 0 ++ tail)
    else none

def v4? (cs : List Char) : Option Ip := (octets? cs).map fun (a, b, c, d) => .v4 a b c d

def ofText? (s : String) : Option Ip := (v4? s.toList).or (v6? s.toList)

/-! ## Printing -/

def octetText (n : UInt8) : List Char := Nat.toDigits 10 n.toNat

def dottedText (a b c d : UInt8) : List Char :=
  octetText a ++ '.' :: octetText b ++ '.' :: octetText c ++ '.' :: octetText d

def groupText (g : UInt16) : List Char := Nat.toDigits 16 g.toNat

/-- Groups with colons between them. -/
def groupsText : List UInt16 → List Char
  | [] => []
  | [g] => groupText g
  | g :: gs => groupText g ++ ':' :: groupsText gs

/-- The number of zero groups at the front. -/
def zeroRun (groups : List UInt16) : Nat := (groups.takeWhile (· = 0)).length

/-- Where the first longest run of zero groups starts, and its length. -/
def longestZeroRun : List UInt16 → Nat × Nat
  | [] => (0, 0)
  | g :: gs =>
    let here := zeroRun (g :: gs)
    let (start, length) := longestZeroRun gs
    if length ≤ here then (0, here) else (start + 1, length)

/-- The octets of an IPv4 address that is mapped into IPv6. -/
def mapped? : List UInt16 → Option (UInt8 × UInt8 × UInt8 × UInt8)
  | [0, 0, 0, 0, 0, 0xFFFF, x, y] =>
    some ((x / 256).toUInt8, x.toUInt8, (y / 256).toUInt8, y.toUInt8)
  | _ => none

def v6Text (groups : List UInt16) : List Char :=
  match mapped? groups with
  | some (a, b, c, d) => "::ffff:".toList ++ dottedText a b c d
  | none =>
    let (start, length) := longestZeroRun groups
    if 1 < length then
      groupsText (groups.take start) ++ [':', ':'] ++ groupsText (groups.drop (start + length))
    else groupsText groups

def text : Ip → String
  | .v4 a b c d => String.ofList (dottedText a b c d)
  | .v6 groups => String.ofList (v6Text groups.toList)

def isV6 : Ip → Bool
  | .v4 .. => false
  | .v6 _ => true

end Ip

end DeviceOnboard
