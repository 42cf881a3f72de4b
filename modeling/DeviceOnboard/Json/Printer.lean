import DeviceOnboard.Json.Value

/-!
# JSON text of a value

Compact text: no blanks, strings with the short escapes for quotes, backslashes and the common
control characters, and numbers with the fewest digits that read back.
-/
namespace DeviceOnboard.Json

/-- Doubles are positional from `10 ^ -5` up to, but not including, `10 ^ 16`. -/
def floatLayout : Decimal.FloatLayout := ⟨-5, 15⟩

/-- Two lower case hexadecimal digits. -/
def twoHex (n : Nat) : List Char := [Nat.digitChar (n / 16), Nat.digitChar (n % 16)]

def escapeChar (c : Char) : List Char :=
  if c = '"' then ['\\', '"']
  else if c = '\\' then ['\\', '\\']
  else if c = '\n' then ['\\', 'n']
  else if c = '\r' then ['\\', 'r']
  else if c = '\t' then ['\\', 't']
  else if c = '\x08' then ['\\', 'b']
  else if c = '\x0c' then ['\\', 'f']
  else if c.toNat < 0x20 then ['\\', 'u', '0', '0'] ++ twoHex c.toNat
  else [c]

def stringText (s : String) : String :=
  String.ofList ('"' :: (s.toList.flatMap escapeChar ++ ['"']))

mutual

def text : Json → String
  | .null => "null"
  | .bool b => if b then "true" else "false"
  | .int n => toString n
  | .float x => floatLayout.render x
  | .str s => stringText s
  | .arr items => "[" ++ ",".intercalate (itemTexts items) ++ "]"
  | .obj members => "\x7b" ++ ",".intercalate (memberTexts members) ++ "\x7d"

def itemTexts : List Json → List String
  | [] => []
  | j :: js => text j :: itemTexts js

def memberTexts : List (String × Json) → List String
  | [] => []
  | (k, j) :: ms => (stringText k ++ ":" ++ text j) :: memberTexts ms

end

end DeviceOnboard.Json
