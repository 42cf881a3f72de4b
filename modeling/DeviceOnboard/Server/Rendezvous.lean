import DeviceOnboard.Json.Decode

/-!
# Descriptions of rendezvous servers

A rendezvous server brings devices and their owners together.
-/
namespace DeviceOnboard.Server

open DeviceOnboard.Json

structure RendezvousSpec where
  image : String
  deriving DecidableEq, Repr

namespace RendezvousSpec

def defaultImage : String := "quay.io/vemporop/fdo-rendezvous-server:rhel9.3"

def record : Record RendezvousSpec :=
  RendezvousSpec.mk <$> .defaulted "image" .string defaultImage

def decode : Decoder RendezvousSpec := record.decode "FdoRendezvousServerSpec"

def toJson (s : RendezvousSpec) : Json := .record [.one "image" (.str s.image)]

end RendezvousSpec

end DeviceOnboard.Server
