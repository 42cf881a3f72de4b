import DeviceOnboard.Json.Decode

/-!
# Shapes of foreign documents

Kubernetes objects have far more fields than this library sets or reads. A `Shape` says what a
value may look like, and `Shape.decode` checks a value against it and returns its normal form:
members that the shape does not know are dropped, `null` counts as absent, of several members
with one key the last counts, and required fields that are absent are written empty.
-/
namespace DeviceOnboard.Json

inductive Shape where
  | text
  | boolean
  | int32
  | int64
  | intOrString
  | time
  | preciseTime
  | base64
  | any
  | list (element : Shape)
  | dictionary (value : Shape)
  /-- An object of the named type, with its fields and whether they are required. -/
  | object (typeName : String) (fields : List (String × Bool × Shape))
  deriving Repr, Inhabited

/-- An integer of 32 bits or a string. -/
inductive IntOrString where
  | int (n : Int32)
  | string (s : String)
  deriving DecidableEq, Repr

namespace IntOrString

def decode : Decoder IntOrString
  | _, .str s => .ok (.string s)
  | _, .int n =>
    if -2147483648 ≤ n && n ≤ 2147483647 then .ok (.int (Int32.ofInt n))
    else .error (.invalidValue (.integer n) "a 32-bit integer")
  | _, i => .error (mismatch "IntOrString" i)

def toJson : IntOrString → Json
  | .int n => .int n.toInt
  | .string s => .str s

end IntOrString

namespace Shape

def isBase64Char (c : Char) : Bool := c.isAlphanum || c = '+' || c = '/'

/-- Whether a text is the padded base64 form of some bytes: the unused bits of the last digit are
zero. -/
def isBase64 (s : String) : Bool :=
  let cs := s.toList
  let digits := cs.takeWhile isBase64Char
  let padding := cs.drop digits.length
  let last := digits.getLast?.getD 'A'
  cs.length % 4 = 0 && padding.all (· = '=') &&
    match padding.length with
    | 0 => true
    | 1 => "AEIMQUYcgkosw048".toList.contains last
    | 2 => "AQgw".toList.contains last
    | _ => false

/-- The base64 form of some bytes. -/
def base64Text : Decoder String
  | _, .str s =>
    if isBase64 s then .ok s
    else .error (.invalidValue (.string s) "a base64-encoded string")
  | _, i => .error (mismatch "a base64-encoded string" i)

/-- A time with six places of its second. -/
def preciseText (t : Time) : String :=
  let micros := t.nanos % 1000000000 / 1000
  String.ofList (t.text.toList.dropLast) ++ "." ++ Time.padded 6 micros ++ "Z"

/-- The members of an object under their decoders; a member that is `null` counts as absent. -/
def decodeMembers (decoder : String → Option (Decoder Json)) (o : Origin)
    (found : List (String × Json)) :
    List (String × Input) → Except DecodeError (List (String × Json))
  | [] => .ok found
  | (k, i) :: ms =>
    match decoder k with
    | none =>
      match Decoder.ignored o i with
      | .error e => .error e
      | .ok _ => decodeMembers decoder o found ms
    | some d =>
      match d.nullable o i with
      | .error e => .error e
      | .ok none => decodeMembers decoder o (eraseEntry k found) ms
      | .ok (some j) => decodeMembers decoder o (setEntry k j found) ms

/-- Adds what is written for a required field that is absent. -/
def complete (absent : Except DecodeError Json) (key : String)
    (found : Except DecodeError (List (String × Json))) :
    Except DecodeError (List (String × Json)) :=
  match found with
  | .error e => .error e
  | .ok ms =>
    match findValue? key ms with
    | some _ => .ok ms
    | none => absent.map fun j => setEntry key j ms

mutual

/-- What is written for a required value that is absent. -/
def empty (name : String) : Shape → Except DecodeError Json
  | .text => .ok (.str "")
  | .boolean => .ok (.bool false)
  | .int32 | .int64 | .intOrString => .ok (.int 0)
  | .time | .preciseTime => .error (.missingField name)
  | .base64 => .ok (.str "")
  | .any => .ok .null
  | .list _ => .ok (.arr [])
  | .dictionary _ => .ok (.obj [])
  | .object _ fields => (completeAll fields (.ok [])).map .obj

/-- Adds what is written for the required fields that are absent. -/
def completeAll : List (String × Bool × Shape) → Except DecodeError (List (String × Json)) →
    Except DecodeError (List (String × Json))
  | [], found => found
  | (name, required, shape) :: fields, found =>
    completeAll fields (if required then complete (empty name shape) name found else found)

end

mutual

/-- Checks a value and brings it into normal form. -/
def decode : Shape → Decoder Json
  | .text => Decoder.string.map .str
  | .boolean => Decoder.boolean.map .bool
  | .int32 => Decoder.int32.map .int
  | .int64 => Decoder.int64.map .int
  | .intOrString => IntOrString.decode.map IntOrString.toJson
  | .time => Decoder.time.map fun t => .str t.text
  | .preciseTime => Decoder.time.map fun t => .str (preciseText t)
  | .base64 => base64Text.map .str
  | .any => Decoder.any
  | .list element => (Decoder.list (decode element)).map .arr
  | .dictionary value => (Decoder.dictionary (decode value)).map fun d => .obj d.entries
  | .object typeName fields => fun o i =>
    match i with
    | .obj ms stop =>
      match decodeMembers (decoderOf fields) o [] ms with
      | .error e => .error e
      | .ok found =>
        match syntactic (Input.ending stop) with
        | .error e => .error e
        | .ok _ => (completeAll fields (.ok found)).map .obj
    | i => .error (mismatch typeName i)

/-- The decoder of the field with a key. -/
def decoderOf (fields : List (String × Bool × Shape)) (key : String) : Option (Decoder Json) :=
  match fields with
  | [] => none
  | (name, _, shape) :: rest => if name = key then some (decode shape) else decoderOf rest key

end

/-- A field that may be absent. -/
def opt (name : String) (shape : Shape) : String × Bool × Shape := (name, false, shape)

/-- A field that is always written. -/
def req (name : String) (shape : Shape) : String × Bool × Shape := (name, true, shape)

/-- Fields of one shape that may be absent. -/
def opts (shape : Shape) (names : List String) : List (String × Bool × Shape) :=
  names.map fun name => (name, false, shape)

/-- The fields of a table besides the named ones. -/
def without (names : List String) (fields : List (String × Bool × Shape)) :
    List (String × Bool × Shape) :=
  fields.filter fun f => !names.contains f.1

/-- Fields of one shape that are always written. -/
def reqs (shape : Shape) (names : List String) : List (String × Bool × Shape) :=
  names.map fun name => (name, true, shape)

end Shape

namespace Record

/-- A field of an object in which `null` counts as absent, and which is empty when absent. -/
def orEmpty {α : Type} (name : String) (d : Decoder α) (value : α) : Record α :=
  field name [] true (d.nullable.map fun a => a.getD value) (.ok value)

/-- A field whose value is fixed, when it is there. -/
def constant (name value : String) : Record Unit :=
  ⟨[⟨name, [], true, fun o i =>
    match Decoder.string o i with
    | .error e => .error e
    | .ok s => if s = value then .ok () else .error (.invalidValue (.string s) value)⟩],
    fun _ _ => .ok ()⟩

/-- The normal forms of those fields of a table that are there and not `null`. -/
def carried (fields : List (String × Bool × Shape)) : Record (List (String × Json)) :=
  ⟨fields.map fun f => ⟨f.1, [], true, fun o i => (f.2.2.decode.nullable o i).map fun _ => ()⟩,
    fun o find =>
      let step (found : List (String × Json)) (f : String × Bool × Shape) :
          Except DecodeError (List (String × Json)) :=
        match find f.1 with
        | none => .ok found
        | some i =>
          match f.2.2.decode.nullable o i with
          | .error e => .error e
          | .ok none => .ok found
          | .ok (some j) => .ok (setEntry f.1 j found)
      fields.foldlM step []⟩

/-- The input of the last member that names a field. -/
def lookupLast (rules : List Rule) (members : List (String × Input)) (name : String) :
    Option Input :=
  lookup rules members.reverse name

/-- Checks the members of an object; a field may be given several times. -/
def checkRepeated (rules : List Rule) (o : Origin) :
    List (String × Input) → Except DecodeError Unit
  | [] => .ok ()
  | (k, i) :: ms =>
    let checked := match ruleFor rules k with
      | none => Decoder.ignored o i
      | some r => r.check o i
    match checked with
    | .error e => .error e
    | .ok _ => checkRepeated rules o ms

/-- Decodes an object of a Kubernetes type: of several members with one key the last counts. -/
def decodeKubernetes {α : Type} (typeName : String) (r : Record α) : Decoder α
  | o, .obj ms stop =>
    match checkRepeated r.rules o ms with
    | .error e => .error e
    | .ok _ =>
      match syntactic (Input.ending stop) with
      | .error e => .error e
      | .ok _ => r.build o (lookupLast r.rules ms)
  | _, i => .error (mismatch typeName i)

end Record

end DeviceOnboard.Json
