import DeviceOnboard.Api.Http
import DeviceOnboard.Cluster.Error
import DeviceOnboard.Json.Open
import DeviceOnboard.Kubernetes.Resource
import DeviceOnboard.Kubernetes.Shapes

/-!
# Operations of the API

How objects are applied, found, created, listed and patched, and how a response is read. A request
for an object is only sent when the object has a name.
-/
namespace DeviceOnboard.Api

open DeviceOnboard.Cluster DeviceOnboard.Json DeviceOnboard.Kubernetes

variable {α : Type}

/-! ## Reading responses -/

def apiErrorRecord : Record ApiError :=
  (fun status message reason code => ⟨status, message, reason, code⟩)
    <$> .required "status" .string <*> .defaulted "message" .string ""
    <*> .defaulted "reason" .string "" <*> .required "code" .uint16

def decodeApiError : Decoder ApiError := apiErrorRecord.decode "ErrorResponse"

/-- The error that a response reports. A body that is no such report is quoted. -/
def apiErrorOf (r : Response) : ApiError :=
  match Json.decodeText decodeApiError r.body with
  | .ok e => e
  | .error _ =>
    { status := toString r.code.toNat ++ " " ++ reasonPhrase r.code
      message := Text.quoted r.body
      reason := "Failed to parse error data"
      code := r.code }

/-- The value of a response. -/
def Response.value (d : Decoder α) (r : Response) : Except Error α :=
  if r.isError then .error (.api (apiErrorOf r))
  else (Json.decodeText d r.body).mapError .undecodable

/-! ## Lists -/

/-- The items of a list of objects. -/
def decodeList (item : Decoder α) : Decoder (List α) :=
  let record : Record (List α) :=
    (fun _ items => items) <$> .defaulted "metadata" (Shape.decode Shapes.listMeta) .null
      <*> .required "items" ((Decoder.list item).nullable.map fun l => l.getD [])
  record.decodeOpen "ObjectList" fun items _ => .ok items

/-! ## Operations -/

/-- Whether a character may stand in the path of a request. -/
def isPathChar (c : Char) : Bool :=
  let n := c.toNat
  n == 0x21 || n == 0x22 || (0x24 ≤ n && n ≤ 0x3B) || n == 0x3D || (0x40 ≤ n && n ≤ 0x5F)
    || (0x61 ≤ n && n ≤ 0x7E) || 0x7F ≤ n

/-- Sends a request, if its path can be written, and reads the response. -/
def send (q : Request) (d : Decoder α) : Exchange (Except Error α) :=
  if q.path.toList.all isPathChar then .ask q fun r => .done (r.value d)
  else .done (.error .unaddressable)

/-- Sends a request for an object, if the object has a name. -/
def sendNamed (name : String) (q : Request) (d : Decoder α) : Exchange (Except Error α) :=
  if name = "" then .done (.error .unnamed) else send q d

/-- The name under which changes are made. -/
def manager : String := "fdo-controller"

def objectPath (r : Resource) (ns name : String) : String := r.path (some ns) ++ "/" ++ name

/-- Makes an object have the fields that are given, also where others have set them. -/
def apply (ns : String) (m : Manifest) (d : Decoder α) : Exchange (Except Error α) :=
  sendNamed m.metadata.nameOrStem
    { method := .patch
      path := objectPath m.resource ns m.metadata.nameOrStem
      query := [("fieldManager", manager), ("force", "true")]
      payload := some (.apply m.toJson) } d

/-- An object, or nothing when the answer is that there is none. -/
def find? (r : Resource) (ns name : String) (d : Decoder α) :
    Exchange (Except Error (Option α)) :=
  (sendNamed name { method := .get, path := objectPath r ns name } d).bind fun
    | .ok a => .done (.ok (some a))
    | .error (.api e) => .done (if e.reason = "NotFound" then .ok none else .error (.api e))
    | .error e => .done (.error e)

def create (ns : String) (m : Manifest) (d : Decoder α) : Exchange (Except Error α) :=
  send { method := .post, path := m.resource.path (some ns), payload := some (.object m.toJson) } d

/-- The objects that a selector matches. -/
def list (r : Resource) (ns selector : String) (item : Decoder α) :
    Exchange (Except Error (List α)) :=
  send { method := .get, path := r.path (some ns), query := [("labelSelector", selector)] }
    (decodeList item)

/-- Applies a merge patch to an object, or to the part of it that a suffix names. -/
def mergePatch (r : Resource) (ns name suffix : String) (patch : Json) (d : Decoder α) :
    Exchange (Except Error α) :=
  sendNamed name
    { method := .patch, path := objectPath r ns name ++ suffix, payload := some (.merge patch) } d

end DeviceOnboard.Api
