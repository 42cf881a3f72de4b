import DeviceOnboard.Json.Value

/-!
# Schemas

What the API checks about an object before it stores it: the types of its members, which members
have to be there, and which values are allowed. A format is a note for readers and is not checked.
-/
namespace DeviceOnboard

open DeviceOnboard.Json

/-- What a schema says beside the values that it allows. -/
structure Schema.Notes where
  title : Option String := none
  description : Option String := none
  /-- The value that stands for one that is absent. -/
  default : Option Json := none
  /-- Whether `null` is allowed. -/
  nullable : Bool := false
  deriving Repr, Inhabited

inductive Schema where
  | string
  /-- A string in a format. -/
  | formatted (format : String)
  /-- One of some strings. -/
  | choice (values : List String)
  | integer (format : String) (minimum : Option Int)
  | boolean
  | list (item : Schema)
  /-- An object with any keys. -/
  | dictionary (value : Schema)
  /-- An object with properties, some of which are required. -/
  | object (properties : List (String × Schema)) (required : List String)
  | noted (notes : Schema.Notes) (schema : Schema)
  deriving Repr, Inhabited

namespace Schema

/-! ## Notes -/

def Notes.members (n : Notes) : Members :=
  Members.join
    [.opt "title" n.title .str, .opt "description" n.description .str,
      .opt "default" n.default id, if n.nullable then Members.one "nullable" (.bool true) else []]

/-- Changes the notes of a schema. -/
def annotate (change : Notes → Notes) : Schema → Schema
  | noted notes s => noted (change notes) s
  | s => noted (change {}) s

def titled (title : String) (s : Schema) : Schema :=
  s.annotate fun n => { n with title := some title }

/-- The schema with a description, in place of one that it may have. -/
def described (s : Schema) (text : String) : Schema :=
  s.annotate fun n => { n with description := some text }

def withDefault (s : Schema) (value : Json) : Schema :=
  s.annotate fun n => { n with default := some value }

def nullable (s : Schema) : Schema := s.annotate fun n => { n with nullable := true }

/-! ## Text -/

/-- A bound, which is written as a number with a fraction. -/
def boundJson (n : Int) : Json :=
  match Decimal.Binary64.ofRatio? (decide (n < 0)) n.natAbs 1 with
  | some x => .float x
  | none => .int n

mutual

/-- The members of the object that a schema is written as. -/
def members : Schema → Members
  | string => .one "type" (.str "string")
  | formatted format => Members.one "format" (.str format) ++ Members.one "type" (.str "string")
  | choice values => Members.one "enum" (.strings values) ++ Members.one "type" (.str "string")
  | integer format minimum =>
    Members.one "format" (.str format) ++ Members.opt "minimum" minimum boundJson
      ++ Members.one "type" (.str "integer")
  | boolean => .one "type" (.str "boolean")
  | list item => Members.one "items" (.obj (sortEntries (members item)))
      ++ Members.one "type" (.str "array")
  | dictionary value =>
    Members.one "additionalProperties" (.obj (sortEntries (members value)))
      ++ Members.one "type" (.str "object")
  | object properties required =>
    Members.one "properties" (.obj (sortEntries (propertyMembers properties)))
      ++ (if required.isEmpty then [] else Members.one "required" (.strings required))
      ++ Members.one "type" (.str "object")
  | noted notes s => notes.members ++ members s

def propertyMembers : List (String × Schema) → Members
  | [] => []
  | (name, s) :: ps => (name, .obj (sortEntries (members s))) :: propertyMembers ps

end

def toJson (s : Schema) : Json := .obj (sortEntries s.members)

end Schema

end DeviceOnboard
