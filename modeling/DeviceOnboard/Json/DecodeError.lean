import DeviceOnboard.Json.Input
import DeviceOnboard.Json.Printer
import DeviceOnboard.Text.Quoted
import DeviceOnboard.Time

/-!
# Why a JSON value is refused

The causes for which an input is not a value of the type that is asked for, and their wording.
-/
namespace DeviceOnboard.Json

/-- What stands where something else is expected. -/
inductive Found where
  | null
  | boolean (b : Bool)
  | integer (n : Int)
  | floating (x : Decimal.Binary64)
  | string (s : String)
  | sequence
  | map
  deriving DecidableEq, Repr

def Found.text : Found → String
  | null => "null"
  | boolean b => "boolean `" ++ (if b then "true" else "false") ++ "`"
  | integer n => "integer `" ++ toString n ++ "`"
  | floating x => "floating point `" ++ floatLayout.render x ++ "`"
  | string s => "string " ++ Text.quoted s
  | sequence => "sequence"
  | map => "map"

inductive DecodeError where
  | malformed (e : SyntaxError)
  | invalidType (found : Found) (expected : String)
  | invalidValue (found : Found) (expected : String)
  | missingField (name : String)
  | duplicateField (name : String)
  | unknownVariant (name : String) (known : List String)
  | tooFew (present : Nat) (typeName : String) (fields : Nat)
  | tooMany (present : Nat)
  | notATime (e : Time.Error)
  deriving DecidableEq, Repr

namespace DecodeError

def backquoted (s : String) : String := "`" ++ s ++ "`"

/-- The alternatives of a variant. -/
def alternatives : List String → String
  | [] => "there are no variants"
  | [a] => "expected " ++ backquoted a
  | [a, b] => "expected " ++ backquoted a ++ " or " ++ backquoted b
  | names => "expected one of " ++ ", ".intercalate (names.map backquoted)

def elements (n : Nat) : String := toString n ++ (if n = 1 then " element" else " elements")

def message : DecodeError → String
  | malformed e => e.message
  | invalidType found expected => "invalid type: " ++ found.text ++ ", expected " ++ expected
  | invalidValue found expected => "invalid value: " ++ found.text ++ ", expected " ++ expected
  | missingField name => "missing field " ++ backquoted name
  | duplicateField name => "duplicate field " ++ backquoted name
  | unknownVariant name known => "unknown variant " ++ backquoted name ++ ", " ++ alternatives known
  | tooFew present typeName fields =>
    "invalid length " ++ toString present ++ ", expected struct " ++ typeName ++ " with "
      ++ elements fields
  | tooMany present =>
    "invalid length " ++ toString present ++ ", expected fewer elements in array"
  | notATime e => e.message

end DecodeError

end DeviceOnboard.Json
