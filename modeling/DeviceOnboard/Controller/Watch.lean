import DeviceOnboard.Kubernetes.Selector
import DeviceOnboard.Server.Kind

/-!
# What a controller watches

A controller watches the servers of its kind, the objects that are made for them, and, for
onboarding servers, the configuration maps that hold files for devices. Each watch asks the API for
the objects of one resource whose labels a selector matches, in one namespace or in all.
-/
namespace DeviceOnboard.Controller

open DeviceOnboard.Kubernetes DeviceOnboard.Server

/-- What the objects of a watch are to the controller. -/
inductive Role where
  /-- The servers that are reconciled. -/
  | server
  /-- Objects made for a server. -/
  | child
  /-- Configuration maps that hold files for devices. -/
  | file
  deriving DecidableEq, Repr

structure Watch where
  role : Role
  resource : Resource
  selector : Selector
  deriving DecidableEq, Repr

namespace Watch

def servers (kind : Kind) : Watch := ⟨.server, kind.resource, .all⟩

/-- The objects of a resource that carry the label of all children. -/
def children (r : Resource) : Watch := ⟨.child, r, ⟨[.equals appLabel appName]⟩⟩

def files : Watch := ⟨.file, .configMaps, ⟨[.present fileOwnerLabel]⟩⟩

/-- The resources of the children of a server, of which routes are not known in every cluster. -/
def childResources (routes : Bool) : List Resource :=
  [.deployments, .services, .configMaps] ++ if routes then [.routes] else []

/-- The watches of the controller of a kind of servers. -/
def all (kind : Kind) (routes : Bool) : List Watch :=
  servers kind :: (childResources routes).map children
    ++ if kind = .onboarding then [files] else []

/-- The path of a watch in a namespace, or in all, with its selector. -/
def address (w : Watch) («namespace» : Option String) : String :=
  let path := w.resource.path «namespace»
  if w.selector.requirements.isEmpty then path
  else path ++ "?labelSelector=" ++ w.selector.text

end Watch

end DeviceOnboard.Controller
