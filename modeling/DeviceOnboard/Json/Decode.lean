import DeviceOnboard.Json.DecodeError
import DeviceOnboard.Json.Reader

/-!
# Decoding JSON into types

A decoder visits an input in the order of its text and reports the first thing that does not fit.
A `Record` describes an object by its fields. The members are checked as they come; afterwards the
fields are collected in the order of their declaration, and a field that is absent takes its
default or is reported as missing. A record can also be given as a list of its fields' values.

Values that were read before they are decoded differ from text in two ways: a list with too many
elements is reported with its length, and a variant may stand in the place of any value.
-/
namespace DeviceOnboard.Json

/-- Whether an input is decoded while its text is read, or from a value that was read before. -/
inductive Origin where
  | text | value
  deriving DecidableEq, Repr

abbrev Decoder (α : Type) := Origin → Input → Except DecodeError α

/-- The error of finding an input where something else is expected. -/
def mismatch (expected : String) : Input → DecodeError
  | .null => .invalidType .null expected
  | .bool b => .invalidType (.boolean b) expected
  | .int n => .invalidType (.integer n) expected
  | .float x => .invalidType (.floating x) expected
  | .str s => .invalidType (.string s) expected
  | .arr _ _ => .invalidType .sequence expected
  | .obj _ _ => .invalidType .map expected
  | .damaged f => .malformed f.onRead

def syntactic {α : Type} : Except SyntaxError α → Except DecodeError α
  | .ok a => .ok a
  | .error e => .error (.malformed e)

namespace Decoder

variable {α β : Type}

/-! ## Simple values -/

def string : Decoder String
  | _, .str s => .ok s
  | _, i => .error (mismatch "a string" i)

def boolean : Decoder Bool
  | _, .bool b => .ok b
  | _, i => .error (mismatch "a boolean" i)

/-- An integer in a closed range. -/
def integer (low high : Int) (typeName : String) : Decoder Int
  | _, .int n =>
    if low ≤ n && n ≤ high then .ok n else .error (.invalidValue (.integer n) typeName)
  | _, i => .error (mismatch typeName i)

def int32 : Decoder Int := integer (-2147483648) 2147483647 "i32"

def int64 : Decoder Int := integer (-9223372036854775808) 9223372036854775807 "i64"

def uint16 : Decoder UInt16 := fun o i => (integer 0 65535 "u16" o i).map fun n => n.toNat.toUInt16

def time : Decoder Time
  | _, .str s =>
    match Time.ofText s with
    | .ok t => .ok t
    | .error e => .error (.notATime e)
  | _, i => .error (mismatch "an RFC 3339 formatted date and time string" i)

/-- Any value. -/
def any : Decoder Json := fun _ i => syntactic i.toJson

/-- Passes over a value. -/
def ignored : Decoder Unit := fun _ i => syntactic i.pass

/-! ## Combinations -/

def map (f : α → β) (d : Decoder α) : Decoder β := fun o i => (d o i).map f

/-- A value that may be `null`. -/
def nullable (d : Decoder α) : Decoder (Option α)
  | _, .null => .ok none
  | o, i => (d o i).map some

/-- The elements of a list. -/
def each (d : Decoder α) (o : Origin) : List Input → Except DecodeError (List α)
  | [] => .ok []
  | i :: is =>
    match d o i with
    | .error e => .error e
    | .ok a => (each d o is).map (a :: ·)

def list (d : Decoder α) : Decoder (List α)
  | o, .arr items stop =>
    match each d o items with
    | .error e => .error e
    | .ok as =>
      match syntactic (Input.ending stop) with
      | .error e => .error e
      | .ok _ => .ok as
  | _, i => .error (mismatch "a sequence" i)

/-- The values of an object's members, with their keys. -/
def eachMember (d : Decoder α) (o : Origin) :
    List (String × Input) → Except DecodeError (List (String × α))
  | [] => .ok []
  | (k, i) :: ms =>
    match d o i with
    | .error e => .error e
    | .ok a => (eachMember d o ms).map ((k, a) :: ·)

def dictionary (d : Decoder α) : Decoder (Dictionary α)
  | o, .obj ms stop =>
    match eachMember d o ms with
    | .error e => .error e
    | .ok ps =>
      match syntactic (Input.ending stop) with
      | .error e => .error e
      | .ok _ => .ok (Dictionary.ofList ps)
  | _, i => .error (mismatch "a map" i)

/-! ## Variants -/

/-- The value that a variant's name stands for. -/
def variantNamed (table : List (String × α)) (name : String) : Except DecodeError α :=
  match table.find? (fun p => p.1 == name) with
  | some p => .ok p.2
  | none => .error (.unknownVariant name (table.map (·.1)))

/-- The content of a variant without fields. -/
def unit : Decoder Unit
  | _, .null => .ok ()
  | _, i => .error (mismatch "unit" i)

/-- The rest of an object in a text after the only member it may have. -/
def onlyMember (others : List (String × Input)) (stop : Option Fault) : Except DecodeError Unit :=
  match others, stop with
  | [], none => .ok ()
  | [], some f =>
    .error (.malformed (if f.onRead = .endInObject then .endInObject else .expectedValue))
  | _ :: _, _ => .error (.malformed .expectedValue)

/-- The error of an object in a text that breaks off, or ends, in front of its first member. -/
def noMember : Option Fault → SyntaxError
  | none => .expectedValue
  | some f => if f.onRead = .endInObject then .endInValue else f.onRead

/-- One of a set of names: a string, or an object whose only key is the name. -/
def variant (table : List (String × α)) : Decoder α
  | _, .str s => variantNamed table s
  | .value, .obj [(k, i)] _ => do
    let a ← variantNamed table k
    unit .value i
    return a
  | .value, .obj _ _ => .error (.invalidValue .map "map with a single key")
  | .value, i => .error (mismatch "string or map" i)
  | .text, .obj [] stop => .error (.malformed (noMember stop))
  | .text, .obj ((k, i) :: ms) stop => do
    let a ← variantNamed table k
    unit .text i
    onlyMember ms stop
    return a
  | .text, .damaged f => .error (.malformed f.onRead)
  | .text, _ => .error (.malformed .expectedValue)

end Decoder

/-! ## Records -/

/-- How the value of one field is checked. -/
structure Rule where
  name : String
  aliases : List String
  /-- Whether a list that is too short may leave the field out. -/
  optional : Bool
  check : Decoder Unit

/-- Whether a key is a name of the field. -/
def Rule.named (r : Rule) (key : String) : Bool := r.name == key || r.aliases.contains key

/-- The fields of a type, and how a value is built from what the input has for their names. -/
structure Record (α : Type) where
  rules : List Rule
  build : Origin → (String → Option Input) → Except DecodeError α

namespace Record

variable {α β : Type}

def pure (a : α) : Record α := ⟨[], fun _ _ => .ok a⟩

def seq (f : Record (α → β)) (x : Unit → Record α) : Record β :=
  ⟨f.rules ++ (x ()).rules, fun o find =>
    match f.build o find with
    | .error e => .error e
    | .ok g => ((x ()).build o find).map g⟩

def map (f : α → β) (x : Record α) : Record β :=
  ⟨x.rules, fun o find => (x.build o find).map f⟩

instance : Functor Record := ⟨map, fun a x => map (fun _ => a) x⟩

instance : Seq Record := ⟨seq⟩

/-- A field with what stands for it when it is absent. -/
def field (name : String) (aliases : List String) (optional : Bool) (d : Decoder α)
    (absent : Except DecodeError α) : Record α :=
  ⟨[⟨name, aliases, optional, fun o i => (d o i).map fun _ => ()⟩], fun o find =>
    match find name with
    | some i => d o i
    | none => absent⟩

/-- A field that has to be there. -/
def required (name : String) (d : Decoder α) : Record α :=
  field name [] false d (.error (.missingField name))

/-- A field that takes a default value when it is absent. -/
def defaulted (name : String) (d : Decoder α) (value : α) : Record α :=
  field name [] true d (.ok value)

/-- A field that may be absent or `null`. -/
def optional (name : String) (d : Decoder α) : Record (Option α) :=
  field name [] true d.nullable (.ok none)

/-- A field that may be absent or `null`, but has its place when the record is a list. -/
def placed (name : String) (d : Decoder α) : Record (Option α) :=
  field name [] false d.nullable (.ok none)

/-- The rule of the field that a key names. -/
def ruleFor (rules : List Rule) (key : String) : Option Rule := rules.find? (·.named key)

/-- The input of the first member that names a field. -/
def lookup (rules : List Rule) (members : List (String × Input)) (name : String) : Option Input :=
  (members.find? fun m => (ruleFor rules m.1).any (·.name == name)).map (·.2)

/-- Checks the members of an object in their order; other keys are passed over. -/
def checkMembers (rules : List Rule) (o : Origin) (seen : List String) :
    List (String × Input) → Except DecodeError Unit
  | [] => .ok ()
  | (k, i) :: ms =>
    match ruleFor rules k with
    | none =>
      match Decoder.ignored o i with
      | .error e => .error e
      | .ok _ => checkMembers rules o seen ms
    | some r =>
      if seen.contains r.name then .error (.duplicateField r.name)
      else
        match r.check o i with
        | .error e => .error e
        | .ok _ => checkMembers rules o (r.name :: seen) ms

/-- What a list holds beyond the fields of a record. -/
def checkSurplus (o : Origin) (present : Nat) (surplus : List Input) (stop : Option Fault) :
    Except DecodeError Unit :=
  match o, surplus, stop with
  | _, [], none => .ok ()
  | .value, _, _ => .error (.tooMany present)
  | .text, _ :: _, _ => .error (.malformed .trailingText)
  | .text, [], some f =>
    .error (.malformed (if f.onRead = .expectedListEnd then .trailingText else f.onRead))

/-- Checks the elements of a list against the fields in the order of their declaration. -/
def checkItems (tooFew : Nat → DecodeError) (o : Origin) (present index : Nat)
    (stop : Option Fault) : List Rule → List Input → Except DecodeError Unit
  | [], surplus => checkSurplus o present surplus stop
  | r :: rs, [] =>
    match syntactic (Input.ending stop) with
    | .error e => .error e
    | .ok _ =>
      if r.optional then checkItems tooFew o present (index + 1) stop rs []
      else .error (tooFew index)
  | r :: rs, i :: is =>
    match r.check o i with
    | .error e => .error e
    | .ok _ => checkItems tooFew o present (index + 1) stop rs is

/-- The element in the place of a field. -/
def lookupItem (rules : List Rule) (items : List Input) (name : String) : Option Input :=
  ((rules.map (·.name)).zip items).find? (fun p => p.1 == name) |>.map (·.2)

/-- Decodes the members of an object. -/
def decodeMembers (r : Record α) (o : Origin) (members : List (String × Input))
    (stop : Option Fault) : Except DecodeError α :=
  match checkMembers r.rules o [] members with
  | .error e => .error e
  | .ok _ =>
    match syntactic (Input.ending stop) with
    | .error e => .error e
    | .ok _ => r.build o (lookup r.rules members)

/-- Decodes an object or a list of the fields' values. -/
def decode (typeName : String) (r : Record α) : Decoder α
  | o, .obj ms stop => r.decodeMembers o ms stop
  | o, .arr items stop =>
    match checkItems (fun n => .tooFew n typeName r.rules.length) o items.length 0 stop r.rules
        items with
    | .error e => .error e
    | .ok _ => r.build o (lookupItem r.rules items)
  | _, i => .error (mismatch ("struct " ++ typeName) i)

/-- Decodes an object. -/
def decodeObject (expected : String) (r : Record α) : Decoder α
  | o, .obj ms stop => r.decodeMembers o ms stop
  | _, i => .error (mismatch expected i)

end Record

/-- Decodes a value that was read before. -/
def decode {α : Type} (d : Decoder α) (j : Json) : Except DecodeError α := d .value (.ofJson j)

/-- Decodes a text that is given as its bytes. -/
def decodeBytes {α : Type} (d : Decoder α) (bytes : List UInt8) : Except DecodeError α :=
  let doc := Document.ofBytes bytes
  match d .text doc.root with
  | .error e => .error e
  | .ok a => if doc.trailing then .error (.malformed .trailingText) else .ok a

/-- Decodes a text. -/
def decodeText {α : Type} (d : Decoder α) (text : String) : Except DecodeError α :=
  decodeBytes d (utf8 text)

end DeviceOnboard.Json
