import DeviceOnboard.Json.Open
import DeviceOnboard.Kubernetes.Metadata

/-!
# Admission reviews

Before the API stores an object, it asks in a review whether the object is admitted, and finds the
decision in the response. The parts of a review that do not bear on the decision are checked for
their type only.
-/
namespace DeviceOnboard.Admission

open DeviceOnboard.Json DeviceOnboard.Kubernetes

structure GroupVersionKind where
  group : String
  version : String
  kind : String
  deriving DecidableEq, Repr

namespace GroupVersionKind

def record : Record GroupVersionKind :=
  GroupVersionKind.mk <$> .required "group" .string <*> .required "version" .string
    <*> .required "kind" .string

def decode : Decoder GroupVersionKind := record.decode "GroupVersionKind"

end GroupVersionKind

/-- The plural name of a kind of resource. -/
def decodeGroupVersionResource : Decoder Unit :=
  let record : Record Unit :=
    (fun _ _ _ _ => ()) <$> .required "group" .string <*> .required "version" .string
      <*> .required "resource" .string <*> .defaulted "api_version" .string ""
  record.decode "GroupVersionResource"

inductive Operation where
  | create | update | delete | connect
  deriving DecidableEq, Repr

namespace Operation

def all : List Operation := [create, update, delete, connect]

def name : Operation → String
  | create => "CREATE"
  | update => "UPDATE"
  | delete => "DELETE"
  | connect => "CONNECT"

def decode : Decoder Operation := .variant (all.map fun o => (o.name, o))

end Operation

/-- Who asks for a change. -/
def userInfo : Shape :=
  .object "UserInfo"
    (Shape.opts .text ["uid", "username"]
      ++ [Shape.opt "extra" (.dictionary (.list .text)), Shape.opt "groups" (.list .text)])

/-- The members of an object besides its metadata. -/
def decodeObject : Decoder Members :=
  (Record.defaulted "metadata" ObjectMeta.decode {}).decodeOpen "DynamicObject" fun _ others =>
    .ok (sortEntries others)

/-- A question whether an object is admitted. -/
structure Request where
  uid : String
  kind : GroupVersionKind
  operation : Operation
  /-- The members of the object besides its metadata. -/
  object : Option Members
  deriving Repr

namespace Request

def record : Record Request :=
  (fun uid kind _ _ _ _ _ _ _ operation _ object _ _ _ => ⟨uid, kind, operation, object⟩)
    <$> .required "uid" .string <*> .required "kind" GroupVersionKind.decode
    <*> .required "resource" decodeGroupVersionResource <*> .optional "subResource" .string
    <*> .optional "requestKind" GroupVersionKind.decode
    <*> .optional "requestResource" decodeGroupVersionResource
    <*> .optional "requestSubResource" .string <*> .defaulted "name" .string ""
    <*> .optional "namespace" .string <*> .required "operation" Operation.decode
    <*> .required "userInfo" userInfo.decode <*> .placed "object" decodeObject
    <*> .placed "oldObject" decodeObject <*> .defaulted "dryRun" .boolean false
    <*> .optional "options" .any

def decode : Decoder Request := record.decode "AdmissionRequest"

end Request

/-! ## Responses that come with a review -/

def decodeCause : Decoder Unit :=
  let record : Record Unit :=
    (fun _ _ _ => ()) <$> .defaulted "reason" .string "" <*> .defaulted "message" .string ""
      <*> .defaulted "field" .string ""
  record.decode "StatusCause"

def decodeDetails : Decoder Unit :=
  let record : Record Unit :=
    (fun _ _ _ _ _ _ => ()) <$> .defaulted "name" .string "" <*> .defaulted "group" .string ""
      <*> .defaulted "kind" .string "" <*> .defaulted "uid" .string ""
      <*> .defaulted "causes" (.list decodeCause) []
      <*> .defaulted "retryAfterSeconds" (.integer 0 4294967295 "u32") 0
  record.decode "StatusDetails"

def decodeStatus : Decoder Unit :=
  let record : Record Unit :=
    (fun _ _ _ _ _ => ())
      <$> .optional "status" (.variant [("Success", ()), ("Failure", ())])
      <*> .defaulted "code" .uint16 0 <*> .defaulted "message" .string ""
      <*> .defaulted "reason" .string "" <*> .optional "details" decodeDetails
  record.decode "Status"

def decodeResponse : Decoder Unit :=
  let record : Record Unit :=
    (fun _ _ _ _ _ _ _ => ()) <$> .required "uid" .string <*> .required "allowed" .boolean
      <*> .required "status" decodeStatus
      <*> .placed "patch" (.list (.integer 0 255 "u8"))
      <*> .placed "patchType" (.variant [("JSONPatch", ())])
      <*> .defaulted "auditAnnotations" (.dictionary .string) .empty
      <*> .placed "warnings" (.list .string)
  record.decode "AdmissionResponse"

/-! ## Reviews -/

structure Review where
  apiVersion : String
  kind : String
  request : Option Request
  deriving Repr

namespace Review

def versionRecord : Record (String × String) :=
  Prod.mk <$> .required "apiVersion" .string <*> .required "kind" .string

/-- The version and the kind of a review are looked at after its end. -/
def decode : Decoder Review :=
  let record : Record (Option Request) :=
    (fun request _ => request) <$> .optional "request" Request.decode
      <*> .optional "response" decodeResponse
  record.decodeOpen "AdmissionReview" fun request others =>
    (versionRecord.decodeKept others).map fun v => ⟨v.1, v.2, request⟩

end Review

/-- What the response to a review says about the object. -/
inductive Decision where
  | allowed
  | denied (message : String)
  /-- The review cannot be decided on. -/
  | invalid (message : String)
  deriving DecidableEq, Repr

namespace Decision

def isAllowed : Decision → Bool
  | allowed => true
  | denied _ | invalid _ => false

def statusJson : Decision → Json
  | allowed => .obj []
  | denied message => .record [.one "message" (.str message)]
  | invalid message =>
    .record
      [.one "message" (.str message), .one "reason" (.str "InvalidRequest"),
        .one "status" (.str "Failure")]

end Decision

/-- A review with its response. -/
structure Answer where
  apiVersion : String
  kind : String
  uid : String
  decision : Decision
  deriving DecidableEq, Repr

namespace Answer

def toJson (a : Answer) : Json :=
  .record
    [.one "apiVersion" (.str a.apiVersion), .one "kind" (.str a.kind),
      .one "response" (.record
        [.one "allowed" (.bool a.decision.isAllowed), .one "status" a.decision.statusJson,
          .one "uid" (.str a.uid)])]

/-- The answer when there is no request that could be answered. -/
def invalid (message : String) : Answer where
  apiVersion := "admission.k8s.io/v1beta1"
  kind := "AdmissionReview"
  uid := ""
  decision := .invalid message

end Answer

end DeviceOnboard.Admission
