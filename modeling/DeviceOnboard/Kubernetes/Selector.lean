import DeviceOnboard.Kubernetes.Metadata
import DeviceOnboard.Text.Pieces

/-!
# Label selectors

Objects are selected by their labels: a selector is a list of requirements, each of which asks that
a label has a value, or only that it is there. In text the requirements stand between commas.
-/
namespace DeviceOnboard.Kubernetes

inductive Requirement where
  | equals (key value : String)
  /-- A label is there, with any value. -/
  | present (key : String)
  deriving DecidableEq, Repr

namespace Requirement

/-- The requirement that a text states. A value starts after the first equals sign. -/
def ofText (s : String) : Requirement :=
  let key := s.toList.takeWhile (· ≠ '=')
  match s.toList.drop key.length with
  | [] => present s
  | _ :: value => equals (String.ofList key) (String.ofList value)

def text : Requirement → String
  | equals key value => key ++ "=" ++ value
  | present key => key

/-- Whether labels meet a requirement. -/
def holds (labels : String → Option String) : Requirement → Bool
  | equals key value => labels key == some value
  | present key => (labels key).isSome

end Requirement

/-- A selector without requirements selects every object. -/
structure Selector where
  requirements : List Requirement
  deriving DecidableEq, Repr

namespace Selector

/-- The selector of every object. -/
def all : Selector := ⟨[]⟩

def ofText (s : String) : Selector :=
  if s = "" then all else ⟨(Text.splitText ',' s).map Requirement.ofText⟩

def text (s : Selector) : String := ",".intercalate (s.requirements.map Requirement.text)

/-- Whether labels meet all requirements of a selector. -/
def selects (s : Selector) (labels : String → Option String) : Bool :=
  s.requirements.all (Requirement.holds labels)

end Selector

end DeviceOnboard.Kubernetes
