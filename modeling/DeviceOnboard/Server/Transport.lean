import DeviceOnboard.Json.Decode

/-!
# Transports

The transport protocols that devices and servers speak.
-/
namespace DeviceOnboard.Server

open DeviceOnboard.Json

inductive Transport where
  | tcp | tls | http | coap | https | coaps
  deriving DecidableEq, Repr, Inhabited

namespace Transport

def all : List Transport := [tcp, tls, http, coap, https, coaps]

def name : Transport → String
  | tcp => "tcp"
  | tls => "tls"
  | http => "http"
  | coap => "coap"
  | https => "https"
  | coaps => "coaps"

def decode : Decoder Transport := .variant (all.map fun t => (t.name, t))

def toJson (t : Transport) : Json := .str t.name

end Transport

end DeviceOnboard.Server
