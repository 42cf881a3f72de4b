import DeviceOnboard.Dialogue
import DeviceOnboard.Json.Value

/-!
# Messages of the API

The requests that are sent to the Kubernetes API and the responses that come back.
-/
namespace DeviceOnboard.Api

inductive Method where
  | get | post | patch
  deriving DecidableEq, Repr

def Method.name : Method → String
  | get => "GET"
  | post => "POST"
  | patch => "PATCH"

/-- What the body of a request stands for. -/
inductive Payload where
  /-- An object that is created. -/
  | object (j : Json)
  /-- The fields of an object that the sender wants to manage. -/
  | apply (j : Json)
  /-- A merge patch. -/
  | merge (j : Json)
  deriving Repr

namespace Payload

def contentType : Payload → String
  | object _ => "application/json"
  | apply _ => "application/apply-patch+yaml"
  | merge _ => "application/merge-patch+json"

def json : Payload → Json
  | object j | apply j | merge j => j

end Payload

structure Request where
  method : Method
  path : String
  query : List (String × String) := []
  payload : Option Payload := none
  deriving Repr

structure Response where
  code : UInt16
  body : String
  deriving DecidableEq, Repr

/-- A program that sends requests. -/
abbrev Exchange (α : Type) := Dialogue Request (fun _ => Response) α

/-- The phrase that goes with the code of a response. -/
def reasonPhrase (code : UInt16) : String :=
  match code.toNat with
  | 100 => "Continue"
  | 101 => "Switching Protocols"
  | 102 => "Processing"
  | 200 => "OK"
  | 201 => "Created"
  | 202 => "Accepted"
  | 203 => "Non Authoritative Information"
  | 204 => "No Content"
  | 205 => "Reset Content"
  | 206 => "Partial Content"
  | 207 => "Multi-Status"
  | 208 => "Already Reported"
  | 226 => "IM Used"
  | 300 => "Multiple Choices"
  | 301 => "Moved Permanently"
  | 302 => "Found"
  | 303 => "See Other"
  | 304 => "Not Modified"
  | 305 => "Use Proxy"
  | 307 => "Temporary Redirect"
  | 308 => "Permanent Redirect"
  | 400 => "Bad Request"
  | 401 => "Unauthorized"
  | 402 => "Payment Required"
  | 403 => "Forbidden"
  | 404 => "Not Found"
  | 405 => "Method Not Allowed"
  | 406 => "Not Acceptable"
  | 407 => "Proxy Authentication Required"
  | 408 => "Request Timeout"
  | 409 => "Conflict"
  | 410 => "Gone"
  | 411 => "Length Required"
  | 412 => "Precondition Failed"
  | 413 => "Payload Too Large"
  | 414 => "URI Too Long"
  | 415 => "Unsupported Media Type"
  | 416 => "Range Not Satisfiable"
  | 417 => "Expectation Failed"
  | 418 => "I'm a teapot"
  | 421 => "Misdirected Request"
  | 422 => "Unprocessable Entity"
  | 423 => "Locked"
  | 424 => "Failed Dependency"
  | 425 => "Too Early"
  | 426 => "Upgrade Required"
  | 428 => "Precondition Required"
  | 429 => "Too Many Requests"
  | 431 => "Request Header Fields Too Large"
  | 451 => "Unavailable For Legal Reasons"
  | 500 => "Internal Server Error"
  | 501 => "Not Implemented"
  | 502 => "Bad Gateway"
  | 503 => "Service Unavailable"
  | 504 => "Gateway Timeout"
  | 505 => "HTTP Version Not Supported"
  | 506 => "Variant Also Negotiates"
  | 507 => "Insufficient Storage"
  | 508 => "Loop Detected"
  | 510 => "Not Extended"
  | 511 => "Network Authentication Required"
  | _ => "<unknown status code>"

/-- Whether a response reports an error. -/
def Response.isError (r : Response) : Bool := 400 ≤ r.code && r.code < 600

end DeviceOnboard.Api
