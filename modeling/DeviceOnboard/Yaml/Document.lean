import DeviceOnboard.Yaml.Scalar

/-!
# YAML documents

The documents that servers read their configuration from, in block style: nested mappings are
indented by two, and the items of a list start in the column of its key.
-/
namespace DeviceOnboard

inductive Yaml where
  | bool (b : Bool)
  | int (n : Int)
  /-- A scalar that is written as it stands, such as a number in a form of its own. -/
  | word (text : String)
  | str (s : String)
  | seq (items : List Yaml)
  | map (entries : List (String × Yaml))
  deriving Repr, Inhabited

namespace Yaml

/-- Entries of a mapping. -/
abbrev Entries := List (String × Yaml)

/-- An entry that is always written. -/
def Entries.one (key : String) (value : Yaml) : Entries := [(key, value)]

/-- An entry that is written when the value is set. -/
def Entries.opt {α : Type} (key : String) (value : Option α) (write : α → Yaml) : Entries :=
  match value with
  | some a => [(key, write a)]
  | none => []

/-- A list entry that is written when the list is not empty. -/
def Entries.many {α : Type} (key : String) (items : List α) (write : α → Yaml) : Entries :=
  if items.isEmpty then [] else [(key, .seq (items.map write))]

/-- A mapping from groups of entries. -/
def record (groups : List Entries) : Yaml := .map groups.flatten

def strings (l : List String) : Yaml := .seq (l.map .str)

/-- A variant with its content. -/
def variant (name : String) (content : Yaml) : Yaml := .map [(name, content)]

mutual

/-- What follows a key and its colon. The mapping of the key starts at the indent. -/
def valueText (indent : Nat) : Yaml → List Char
  | .bool b => ' ' :: ((if b then "true" else "false").toList ++ ['\n'])
  | .int n => ' ' :: ((toString n).toList ++ ['\n'])
  | .word text => ' ' :: (text.toList ++ ['\n'])
  | .str s => ' ' :: scalarLine (indent + 2) s
  | .seq [] => " []\n".toList
  | .seq items => '\n' :: itemsText indent (spaces indent) items
  | .map [] => " \x7b\x7d\n".toList
  | .map entries => '\n' :: entriesText (indent + 2) (spaces (indent + 2)) entries

/-- What follows the dash of an item in the column. -/
def itemText (column : Nat) : Yaml → List Char
  | .bool b => ' ' :: ((if b then "true" else "false").toList ++ ['\n'])
  | .int n => ' ' :: ((toString n).toList ++ ['\n'])
  | .word text => ' ' :: (text.toList ++ ['\n'])
  | .str s => ' ' :: scalarLine (column + 2) s
  | .seq [] => " []\n".toList
  | .seq items => ' ' :: itemsText (column + 2) [] items
  | .map [] => " \x7b\x7d\n".toList
  | .map entries => ' ' :: entriesText (column + 2) [] entries

/-- The items of a list; the first one comes after the given text, the others are indented. -/
def itemsText (column : Nat) (lead : List Char) : List Yaml → List Char
  | [] => []
  | item :: items =>
    lead ++ '-' :: (itemText column item ++ itemsText column (spaces column) items)

/-- The entries of a mapping; the first one comes after the given text, the others are indented. -/
def entriesText (indent : Nat) (lead : List Char) : List (String × Yaml) → List Char
  | [] => []
  | (key, value) :: entries =>
    lead ++ key.toList ++ ':' ::
      (valueText indent value ++ entriesText indent (spaces indent) entries)

end

/-- The text of a document that is a mapping. Writing never fails: every string has a style that can
hold it, keys are strings, and lists and mappings may be nested in any way. So the configurations
of servers have a text, and not one or an error. -/
def text : Yaml → String
  | .map entries => String.ofList (entriesText 0 [] entries)
  | other => String.ofList (itemText 0 other)

end Yaml

end DeviceOnboard
