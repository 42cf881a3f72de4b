import DeviceOnboard.Text.Blank
import DeviceOnboard.Text.Invisible

/-!
# Quoted text in messages

A text shown inside an error message stands between double quotes. Quotes, backslashes and the
usual control characters are escaped with a backslash, and every other character that would not
be seen is written by its code point.
-/
namespace DeviceOnboard.Text

/-- The lower case hexadecimal digits of a number, without padding. -/
def hexLower (n : Nat) : List Char := Nat.toDigits 16 n

/-- Whether a character would not be seen when printed as itself. -/
def isInvisible (c : Char) : Bool :=
  if 0x20 ≤ c.toNat && c.toNat < 0x7F then false
  else inRanges unprintableRanges c.toNat || inRanges extendingRanges c.toNat

/-- The written form of one character between the quotes. -/
def quoteChar (c : Char) : List Char :=
  if c = '\x00' then ['\\', '0']
  else if c = '\t' then ['\\', 't']
  else if c = '\r' then ['\\', 'r']
  else if c = '\n' then ['\\', 'n']
  else if c = '"' then ['\\', '"']
  else if c = '\\' then ['\\', '\\']
  else if isInvisible c then ['\\', 'u', '\x7b'] ++ hexLower c.toNat ++ ['\x7d']
  else [c]

/-- The text between double quotes. -/
def quoted (s : String) : String :=
  String.ofList ('"' :: (s.toList.flatMap quoteChar ++ ['"']))

end DeviceOnboard.Text
