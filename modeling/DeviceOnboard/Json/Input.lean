import DeviceOnboard.Json.Value

/-!
# JSON as a reader meets it

A text that breaks off or holds a malformed token can still be read up to that point, and what a
reader complains about first is decided by the order of the text: a value of the wrong type in
front of the damage is reported, and damage in front of the wrong value. An `Input` is a JSON
value in which the damage stays where it was found. Reading a damaged place and passing over it
may differ, because passing over looks at the form of a token only.
-/
namespace DeviceOnboard.Json

/-- Reasons for which a text is not JSON. -/
inductive SyntaxError where
  | endInValue | endInString | endInObject | endInList
  | expectedColon | expectedListEnd | expectedObjectEnd | expectedWord | expectedValue
  | badEscape | badNumber | numberRange | keyNotString | controlCharacter | loneSurrogate
  | unpairedSurrogate | invalidUnicode | trailingComma | trailingText | tooDeep
  deriving DecidableEq, Repr

def SyntaxError.message : SyntaxError → String
  | endInValue => "EOF while parsing a value"
  | endInString => "EOF while parsing a string"
  | endInObject => "EOF while parsing an object"
  | endInList => "EOF while parsing a list"
  | expectedColon => "expected `:`"
  | expectedListEnd => "expected `,` or `]`"
  | expectedObjectEnd => "expected `,` or `\x7d`"
  | expectedWord => "expected ident"
  | expectedValue => "expected value"
  | badEscape => "invalid escape"
  | badNumber => "invalid number"
  | numberRange => "number out of range"
  | keyNotString => "key must be a string"
  | controlCharacter => "control character (\\u0000-\\u001F) found while parsing a string"
  | loneSurrogate => "lone leading surrogate in hex escape"
  | unpairedSurrogate => "unexpected end of hex escape"
  | invalidUnicode => "invalid unicode code point"
  | trailingComma => "trailing comma"
  | trailingText => "trailing characters"
  | tooDeep => "recursion limit exceeded"

/-- Damage in a text: the error of reading it, and the error of passing over it, if that fails. -/
structure Fault where
  onRead : SyntaxError
  onSkip : Option SyntaxError
  deriving DecidableEq, Repr

/-- A JSON value with the damage of its text. A list or an object with a `stop` breaks off after
the elements it holds. -/
inductive Input where
  | null
  | bool (b : Bool)
  | int (n : Int)
  | float (x : Decimal.Binary64)
  | str (s : String)
  | arr (items : List Input) (stop : Option Fault)
  | obj (members : List (String × Input)) (stop : Option Fault)
  | damaged (fault : Fault)
  deriving Repr, Inhabited

namespace Input

mutual

/-- A value is an input without damage. -/
def ofJson : Json → Input
  | .null => .null
  | .bool b => .bool b
  | .int n => .int n
  | .float x => .float x
  | .str s => .str s
  | .arr items => .arr (ofItems items) none
  | .obj ms => .obj (ofMembers ms) none

def ofItems : List Json → List Input
  | [] => []
  | j :: js => ofJson j :: ofItems js

def ofMembers : List (String × Json) → List (String × Input)
  | [] => []
  | (k, j) :: ms => (k, ofJson j) :: ofMembers ms

end

/-- Fails at a place where a list or an object breaks off. -/
def ending : Option Fault → Except SyntaxError Unit
  | none => .ok ()
  | some f => .error f.onRead

/-- Fails at a place that cannot be passed over. -/
def passStop : Option Fault → Except SyntaxError Unit
  | none => .ok ()
  | some f =>
    match f.onSkip with
    | none => .ok ()
    | some e => .error e

mutual

/-- Passes over an input without reading it. -/
def pass : Input → Except SyntaxError Unit
  | .arr items stop =>
    match passItems items with
    | .error e => .error e
    | .ok _ => passStop stop
  | .obj ms stop =>
    match passMembers ms with
    | .error e => .error e
    | .ok _ => passStop stop
  | .damaged f => passStop (some f)
  | .null | .bool _ | .int _ | .float _ | .str _ => .ok ()

def passItems : List Input → Except SyntaxError Unit
  | [] => .ok ()
  | i :: is =>
    match pass i with
    | .error e => .error e
    | .ok _ => passItems is

def passMembers : List (String × Input) → Except SyntaxError Unit
  | [] => .ok ()
  | (_, i) :: ms =>
    match pass i with
    | .error e => .error e
    | .ok _ => passMembers ms

end

mutual

/-- Reads a whole value; of the members with one key the last counts. -/
def toJson : Input → Except SyntaxError Json
  | .null => .ok .null
  | .bool b => .ok (.bool b)
  | .int n => .ok (.int n)
  | .float x => .ok (.float x)
  | .str s => .ok (.str s)
  | .arr items stop => do
    let js ← toItems items
    ending stop
    return .arr js
  | .obj ms stop => do
    let js ← toMembers ms
    ending stop
    return .obj (sortEntries js)
  | .damaged f => .error f.onRead

def toItems : List Input → Except SyntaxError (List Json)
  | [] => .ok []
  | i :: is => do
    let j ← toJson i
    let js ← toItems is
    return j :: js

def toMembers : List (String × Input) → Except SyntaxError (List (String × Json))
  | [] => .ok []
  | (k, i) :: ms => do
    let j ← toJson i
    let js ← toMembers ms
    return (k, j) :: js

end

end Input

end DeviceOnboard.Json
