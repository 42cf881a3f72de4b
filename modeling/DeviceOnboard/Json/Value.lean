import DeviceOnboard.Decimal.Binary64
import DeviceOnboard.Dictionary

/-!
# JSON values

The values that specifications, Kubernetes objects and answers are written as. Integers of 64 bits
are kept apart from all other numbers. Objects are lists of members; the objects that this library
writes have their keys in ascending order. `merge` applies a JSON merge patch.
-/
namespace DeviceOnboard

inductive Json where
  | null
  | bool (b : Bool)
  | int (n : Int)
  | float (x : Decimal.Binary64)
  | str (s : String)
  | arr (items : List Json)
  | obj (members : List (String × Json))
  deriving Repr, Inhabited

namespace Json

/-- A list of strings. -/
def strings (l : List String) : Json := .arr (l.map .str)

/-- A dictionary of strings. -/
def dict (d : Dictionary String) : Json := .obj (d.entries.map fun e => (e.1, .str e.2))

/-- Members of an object. -/
abbrev Members := List (String × Json)

/-- A member that is always written. -/
def Members.one (key : String) (value : Json) : Members := [(key, value)]

/-- A member that is written when the value is set. -/
def Members.opt {α : Type} (key : String) (value : Option α) (write : α → Json) : Members :=
  match value with
  | some a => [(key, write a)]
  | none => []

/-- A list member that is written when the list is not empty. -/
def Members.many {α : Type} (key : String) (items : List α) (write : α → Json) : Members :=
  if items.isEmpty then [] else [(key, .arr (items.map write))]

/-- The members of several groups. -/
def Members.join (groups : List Members) : Members := groups.flatten

/-- An object from groups of members. -/
def record (groups : List Members) : Json := .obj (Members.join groups)

def members : Json → Members
  | .obj ms => ms
  | _ => []

/-- The value of an object's member. -/
def get? (j : Json) (key : String) : Option Json := findValue? key j.members

def str? : Json → Option String
  | .str s => some s
  | _ => none

def int? : Json → Option Int
  | .int n => some n
  | _ => none

def bool? : Json → Option Bool
  | .bool b => some b
  | _ => none

def arr? : Json → Option (List Json)
  | .arr l => some l
  | _ => none

mutual

/-- The target with a merge patch applied: members of the patch replace those of the target,
objects are merged member by member, and `null` removes a member. -/
def merge (target : Json) : Json → Json
  | .obj ps => .obj (mergeMembers target.members ps)
  | .null => .null
  | .bool b => .bool b
  | .int n => .int n
  | .float x => .float x
  | .str s => .str s
  | .arr l => .arr l

def mergeMembers (target : Members) : Members → Members
  | [] => target
  | (k, .null) :: ps => mergeMembers (eraseEntry k target) ps
  | (k, p) :: ps =>
    mergeMembers (setEntry k (merge ((findValue? k target).getD .null) p) target) ps

end

end Json

end DeviceOnboard
