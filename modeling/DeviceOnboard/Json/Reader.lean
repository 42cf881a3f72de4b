import DeviceOnboard.Json.Input

/-!
# Reading JSON text

`Document.ofBytes` reads a text into an input that carries the damage of the text. The text is a
list of bytes, which the readers see as the characters of the same numbers: all signs of JSON are
ASCII, and only what stands in a string has to be UTF-8. Recursion is bounded by the length of the
text. Each reader returns, besides the input, the text after it or the error that ends the whole
text there.
-/
namespace DeviceOnboard.Json

/-- What a reader leaves: the text after the token, or the error of passing over it. -/
abbrev Rest := Except SyntaxError (List Char)

/-- Arrays and objects nest at most this deep. -/
def depthLimit : Nat := 127

def isSpace (c : Char) : Bool := c = ' ' || c = '\n' || c = '\t' || c = '\r'

def skipSpace (cs : List Char) : List Char := cs.dropWhile isSpace

/-- Damage that stops reading and passing over alike. -/
def broken (e : SyntaxError) : Input × Rest := (.damaged ⟨e, some e⟩, .error e)

/-! ## Numbers -/

/-- Digits read into 64 bits: a digit that no longer fits ends the significand. -/
structure Significand where
  value : Nat
  power : Int
  full : Bool

/-- A digit in front of the point; once the significand is full it only counts as a place. -/
def Significand.addWhole (s : Significand) (c : Char) : Significand :=
  let v := s.value * 10 + (c.toNat - 48)
  if s.full || Nat.pow 2 64 ≤ v then ⟨s.value, s.power + 1, true⟩ else ⟨v, s.power, false⟩

/-- A digit after the point; the first one that does not fit ends the fraction. -/
def Significand.addFraction (s : Significand) (c : Char) : Significand :=
  let v := s.value * 10 + (c.toNat - 48)
  if s.full || Nat.pow 2 64 ≤ v then ⟨s.value, s.power, true⟩ else ⟨v, s.power - 1, false⟩

def digitsValue (ds : List Char) : Nat := ds.foldl (fun n c => n * 10 + (c.toNat - 48)) 0

/-- The parts of a number's text. -/
structure NumberText where
  negative : Bool
  whole : List Char
  fraction : Option (List Char)
  exponent : Option (Bool × List Char)

/-- An integer when it has neither fraction nor exponent and fits 64 bits, else a double. Negative
zero is a double. -/
def NumberText.value (t : NumberText) : Input :=
  let whole := t.whole.foldl Significand.addWhole ⟨0, 0, false⟩
  match t.fraction, t.exponent, whole.full with
  | none, none, false =>
    if !t.negative then .int whole.value
    else if whole.value = 0 || Nat.pow 2 63 < whole.value then
      .float ((Decimal.Binary64.ofRatio? true whole.value 1).getD (.zero true))
    else .int (-whole.value)
  | fraction, exponent, _ =>
    let s := (fraction.getD []).foldl Significand.addFraction
      ⟨whole.value, whole.power, false⟩
    let e : Int := match exponent with
      | none => 0
      | some (false, ds) => digitsValue ds
      | some (true, ds) => -digitsValue ds
    match Decimal.Binary64.ofLiteral? t.negative s.value (s.power + e) with
    | some x => .float x
    | none => .damaged ⟨.numberRange, none⟩

/-- Digits that a number needs at this place; an ended text is told apart only when reading. -/
def needDigits (cs : List Char) : Except Fault (List Char × List Char) :=
  match cs.span Char.isDigit with
  | ([], []) => .error ⟨.endInValue, some .badNumber⟩
  | ([], _ :: _) => .error ⟨.badNumber, some .badNumber⟩
  | (ds, rest) => .ok (ds, rest)

def splitWhole (cs : List Char) : Except Fault (List Char × List Char) :=
  match needDigits cs with
  | .error f => .error f
  | .ok (ds, rest) =>
    if ds.head? = some '0' && 1 < ds.length then .error ⟨.badNumber, some .badNumber⟩
    else .ok (ds, rest)

def splitFraction : List Char → Except Fault (Option (List Char) × List Char)
  | '.' :: cs => (needDigits cs).map fun p => (some p.1, p.2)
  | cs => .ok (none, cs)

def splitExponent (cs : List Char) : Except Fault (Option (Bool × List Char) × List Char) :=
  match cs with
  | c :: rest =>
    if c = 'e' || c = 'E' then
      let (negative, ds) : Bool × List Char := match rest with
        | '-' :: r => (true, r)
        | '+' :: r => (false, r)
        | r => (false, r)
      (needDigits ds).map fun p => (some (negative, p.1), p.2)
    else .ok (none, cs)
  | [] => .ok (none, [])

/-- The number at the front of a text, after its sign. -/
def splitNumber (negative : Bool) (cs : List Char) : Except Fault (NumberText × List Char) := do
  let (whole, cs) ← splitWhole cs
  let (fraction, cs) ← splitFraction cs
  let (exponent, cs) ← splitExponent cs
  return (⟨negative, whole, fraction, exponent⟩, cs)

def readNumber (negative : Bool) (cs : List Char) : Input × Rest :=
  match splitNumber negative cs with
  | .ok (t, rest) => (t.value, .ok rest)
  | .error f => (.damaged f, .error (f.onSkip.getD f.onRead))

/-! ## Strings -/

/-- Where a string is being read: between characters, after a backslash, inside the digits of a
hexadecimal escape, or after the escape of a leading surrogate. -/
inductive StringMode where
  | plain
  | escape
  | hex (count value : Nat) (leading : Option Nat)
  | paired (leading : Nat)
  | pairedEscape (leading : Nat)

/-- One step through a string: go on, with the bytes read and the first error of reading, or end at
the closing quote, or break. The bytes are in reverse order. -/
inductive StringStep where
  | go (mode : StringMode) (read : List UInt8) (flaw : Option SyntaxError)
  | close (flaw : Option SyntaxError)
  | broken (e : SyntaxError) (flaw : Option SyntaxError)

def hexValue? (c : Char) : Option Nat :=
  if c.isDigit then some (c.toNat - 48)
  else if 'a' ≤ c && c ≤ 'f' then some (c.toNat - 87)
  else if 'A' ≤ c && c ≤ 'F' then some (c.toNat - 55)
  else none

/-- The bytes read after one more character. -/
def pushChar (c : Char) (out : List UInt8) : List UInt8 := (String.utf8EncodeChar c).reverse ++ out

def plainStep (c : Char) (out : List UInt8) (flaw : Option SyntaxError) : StringStep :=
  if c = '"' then .close flaw
  else if c = '\\' then .go .escape out flaw
  else if c.toNat < 0x20 then .broken .controlCharacter flaw
  else .go .plain (c.toUInt8 :: out) flaw

def escapeStep (c : Char) (out : List UInt8) (flaw : Option SyntaxError) : StringStep :=
  if c = '"' || c = '\\' || c = '/' then .go .plain (pushChar c out) flaw
  else if c = 'b' then .go .plain (pushChar '\x08' out) flaw
  else if c = 'f' then .go .plain (pushChar '\x0c' out) flaw
  else if c = 'n' then .go .plain (pushChar '\n' out) flaw
  else if c = 'r' then .go .plain (pushChar '\r' out) flaw
  else if c = 't' then .go .plain (pushChar '\t' out) flaw
  else if c = 'u' then .go (.hex 0 0 none) out flaw
  else .broken .badEscape flaw

/-- The code unit of a complete hexadecimal escape, alone or after a leading surrogate. -/
def unitStep (unit : Nat) (leading : Option Nat) (out : List UInt8) (flaw : Option SyntaxError) :
    StringStep :=
  match leading with
  | some h =>
    if 0xDC00 ≤ unit && unit ≤ 0xDFFF then
      .go .plain (pushChar (Char.ofNat (0x10000 + (h - 0xD800) * 0x400 + (unit - 0xDC00))) out) flaw
    else .go .plain out (flaw.or (some .loneSurrogate))
  | none =>
    if 0xDC00 ≤ unit && unit ≤ 0xDFFF then .go .plain out (flaw.or (some .loneSurrogate))
    else if 0xD800 ≤ unit && unit ≤ 0xDBFF then .go (.paired unit) out flaw
    else .go .plain (pushChar (Char.ofNat unit) out) flaw

def stringStep (mode : StringMode) (c : Char) (following : List Char) (out : List UInt8)
    (flaw : Option SyntaxError) : StringStep :=
  match mode with
  | .plain => plainStep c out flaw
  | .escape => escapeStep c out flaw
  | .hex count value leading =>
    match hexValue? c with
    | some d =>
      if count = 3 then unitStep (value * 16 + d) leading out flaw
      else .go (.hex (count + 1) (value * 16 + d) leading) out flaw
    | none =>
      .broken (if count + (c :: following.take 3).length < 4 then .endInString else .badEscape) flaw
  | .paired h =>
    if c = '\\' then .go (.pairedEscape h) out flaw
    else plainStep c out (flaw.or (some .unpairedSurrogate))
  | .pairedEscape h =>
    if c = 'u' then .go (.hex 0 0 (some h)) out flaw
    else escapeStep c out (flaw.or (some .unpairedSurrogate))

/-- The text that some bytes are the UTF-8 of. -/
def ofUtf8 (bytes : List UInt8) : Except SyntaxError String :=
  match String.fromUTF8? bytes.toByteArray with
  | some s => .ok s
  | none => .error .invalidUnicode

/-- A string after its opening quote: its text or the error of reading it, and the rest. -/
def scanString (mode : StringMode) (out : List UInt8) (flaw : Option SyntaxError) :
    List Char → Except SyntaxError String × Rest
  | [] => (.error (flaw.getD .endInString), .error .endInString)
  | c :: cs =>
    match stringStep mode c cs out flaw with
    | .go mode out flaw => scanString mode out flaw cs
    | .close none => (ofUtf8 out.reverse, .ok cs)
    | .close (some flaw) => (.error flaw, .ok cs)
    | .broken e flaw => (.error (flaw.getD e), .error e)

def splitString (cs : List Char) : Except SyntaxError String × Rest := scanString .plain [] none cs

/-- The error of passing over what leaves this rest. -/
def skipError (rest : Rest) : Option SyntaxError :=
  match rest with
  | .ok _ => none
  | .error e => some e

def readString (cs : List Char) : Input × Rest :=
  match splitString cs with
  | (.ok s, rest) => (.str s, rest)
  | (.error e, rest) => (.damaged ⟨e, skipError rest⟩, rest)

/-! ## Words, lists and objects -/

/-- The letters that complete a word, after its first one. -/
def readWord (value : Input) : List Char → List Char → Input × Rest
  | [], cs => (value, .ok cs)
  | _ :: _, [] => broken .endInValue
  | w :: ws, c :: cs => if w = c then readWord value ws cs else broken .expectedWord

/-- Where the next element of a list starts, or how the list ends. -/
inductive ListPoint where
  | item (cs : List Char)
  | close (cs : List Char)
  | broken (fault : Fault)

def listPoint (first : Bool) (cs : List Char) : ListPoint :=
  match skipSpace cs with
  | [] => .broken ⟨.endInList, some .endInList⟩
  | ']' :: rest => .close rest
  | c :: rest =>
    if first then .item (c :: rest)
    else if c = ',' then
      match skipSpace rest with
      | ']' :: _ => .broken ⟨.trailingComma, some .expectedValue⟩
      | next => .item next
    else .broken ⟨.expectedListEnd, some .expectedListEnd⟩

/-- Where the next key of an object starts, after its quote, or how the object ends. -/
inductive ObjectPoint where
  | key (cs : List Char)
  | close (cs : List Char)
  | broken (fault : Fault)

def objectPoint (first : Bool) (cs : List Char) : ObjectPoint :=
  match skipSpace cs with
  | [] => .broken ⟨.endInObject, some .endInObject⟩
  | '}' :: rest => .close rest
  | c :: rest =>
    if first then
      if c = '"' then .key rest else .broken ⟨.keyNotString, some .keyNotString⟩
    else if c = ',' then
      match skipSpace rest with
      | '"' :: next => .key next
      | '}' :: _ => .broken ⟨.trailingComma, some .keyNotString⟩
      | [] => .broken ⟨.endInValue, some .endInObject⟩
      | _ :: _ => .broken ⟨.keyNotString, some .keyNotString⟩
    else .broken ⟨.expectedObjectEnd, some .expectedObjectEnd⟩

def afterColon (cs : List Char) : Rest :=
  match skipSpace cs with
  | [] => .error .endInObject
  | ':' :: rest => .ok rest
  | _ :: _ => .error .expectedColon

/-- A list or an object that is nested too deep cannot be read, but it can be passed over. -/
def nested (depth : Nat) (value : Input) (rest : Rest) : Input × Rest :=
  if depthLimit < depth then (.damaged ⟨.tooDeep, skipError rest⟩, rest) else (value, rest)

mutual

/-- The value at the front of a text. The depth counts the enclosing lists and objects. -/
def readValue : Nat → Nat → List Char → Input × Rest
  | 0, _, _ => broken .endInValue
  | fuel + 1, depth, cs =>
    match skipSpace cs with
    | [] => broken .endInValue
    | c :: rest =>
      if c = 'n' then readWord .null ['u', 'l', 'l'] rest
      else if c = 't' then readWord (.bool true) ['r', 'u', 'e'] rest
      else if c = 'f' then readWord (.bool false) ['a', 'l', 's', 'e'] rest
      else if c = '"' then readString rest
      else if c = '-' then readNumber true rest
      else if c.isDigit then readNumber false (c :: rest)
      else if c = '[' then
        let (items, stop, rest) := readItems fuel (depth + 1) true rest
        nested (depth + 1) (.arr items stop) rest
      else if c = '\x7b' then
        let (members, stop, rest) := readMembers fuel (depth + 1) true rest
        nested (depth + 1) (.obj members stop) rest
      else broken .expectedValue

/-- The elements of a list, where it breaks off, and the text after it. -/
def readItems : Nat → Nat → Bool → List Char → List Input × Option Fault × Rest
  | 0, _, _, _ => ([], some ⟨.endInList, some .endInList⟩, .error .endInList)
  | fuel + 1, depth, first, cs =>
    match listPoint first cs with
    | .close rest => ([], none, .ok rest)
    | .broken f => ([], some f, .error (f.onSkip.getD f.onRead))
    | .item cs =>
      match readValue fuel depth cs with
      | (value, .error e) => ([value], none, .error e)
      | (value, .ok rest) =>
        let (items, stop, rest) := readItems fuel depth false rest
        (value :: items, stop, rest)

/-- The members of an object, where it breaks off, and the text after it. -/
def readMembers : Nat → Nat → Bool → List Char → List (String × Input) × Option Fault × Rest
  | 0, _, _, _ => ([], some ⟨.endInObject, some .endInObject⟩, .error .endInObject)
  | fuel + 1, depth, first, cs =>
    match objectPoint first cs with
    | .close rest => ([], none, .ok rest)
    | .broken f => ([], some f, .error (f.onSkip.getD f.onRead))
    | .key cs =>
      match splitString cs with
      | (.error read, .error e) => ([], some ⟨read, some e⟩, .error e)
      | (.ok _, .error e) => ([], some ⟨e, some e⟩, .error e)
      | (key, .ok rest) =>
        match afterColon rest with
        | .error e =>
          match key with
          | .ok k => ([(k, .damaged ⟨e, some e⟩)], none, .error e)
          | .error flaw => ([], some ⟨flaw, some e⟩, .error e)
        | .ok rest =>
          let (value, rest) := readValue fuel depth rest
          let (members, stop, rest) : List (String × Input) × Option Fault × Rest := match rest with
            | .error e => ([], none, .error e)
            | .ok rest => readMembers fuel depth false rest
          match key with
          | .ok k => ((k, value) :: members, stop, rest)
          | .error flaw => ([], some ⟨flaw, skipError rest⟩, rest)

end

/-- A text read as one value. -/
structure Document where
  root : Input
  trailing : Bool
  deriving Repr

/-- Reads a text; anything but blanks after the value is trailing. -/
def Document.ofBytes (bytes : List UInt8) : Document :=
  let cs := bytes.map Char.ofUInt8
  match readValue (2 * cs.length + 2) 0 cs with
  | (root, .error _) => ⟨root, false⟩
  | (root, .ok rest) => ⟨root, !(skipSpace rest).isEmpty⟩

/-- The value of a whole text. -/
def ofBytes (bytes : List UInt8) : Except SyntaxError Json := do
  let doc := Document.ofBytes bytes
  let j ← doc.root.toJson
  if doc.trailing then .error .trailingText else return j

/-- The bytes of a text. -/
def utf8 (text : String) : List UInt8 := text.toList.flatMap String.utf8EncodeChar

def ofText (text : String) : Except SyntaxError Json := ofBytes (utf8 text)

end DeviceOnboard.Json
