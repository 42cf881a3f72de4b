import DeviceOnboard.Cluster.Error
import DeviceOnboard.Config.Error

/-!
# Why a reconcile fails

The causes for which a server is not brought up to date, and how long it takes until the next try.
-/
namespace DeviceOnboard.Reconcile

inductive Error where
  | cluster (e : Cluster.Error)
  | config (e : Config.Error)
  /-- A file for devices is at fault. -/
  | deviceFile (e : Config.Error)
  /-- The object of the server lacks a part of its metadata. -/
  | missingKey (key : String)
  deriving DecidableEq, Repr

namespace Error

/-- The cause that an error of a configuration stands for. -/
def ofConfig (e : Config.Error) : Error := if e.concernsFile then deviceFile e else config e

def message : Error → String
  | cluster e => "kubernetes API request failed: " ++ e.message
  | config e => "invalid server configuration: " ++ e.message
  | deviceFile e => "invalid serviceinfo file: " ++ e.message
  | missingKey key => "resource is missing " ++ key

/-- The seconds until the next try. A file leaves time to mend it, and a configuration that is
invalid is seldom mended without a change of the server. -/
def requeueAfter : Error → Nat
  | deviceFile _ => 30
  | config _ => 60
  | cluster _ | missingKey _ => 5

end Error

end DeviceOnboard.Reconcile
