import DeviceOnboard.Admission.Validation
import DeviceOnboard.Json.Printer

/-!
# The admission webhook

The webhook takes reviews that are posted to its root. It answers every review of a server that it
can read under the identifier of its request, and all others as invalid.
-/
namespace DeviceOnboard.Admission

open DeviceOnboard.Json DeviceOnboard.Server

/-- Whether two texts differ in the case of ASCII letters only. -/
def sameLetters (s t : String) : Bool := s.toLower == t.toLower

/-- The kind of server that a request is about. The version does not count. -/
def kindOf? (k : GroupVersionKind) : Option Kind :=
  Kind.all.find? fun kind =>
    sameLetters k.group kind.resource.group && sameLetters k.kind kind.resource.kind

/-- The answer to a request of a review with a version and a kind. -/
def answerRequest (apiVersion kind : String) (r : Request) : Answer :=
  match kindOf? r.kind with
  | none =>
    .invalid ("unsupported resource type: " ++ r.kind.group ++ "." ++ r.kind.version ++ "."
      ++ r.kind.kind)
  | some serverKind =>
    match judge serverKind r.object with
    | .ok _ => ⟨apiVersion, kind, r.uid, .allowed⟩
    | .error e => ⟨apiVersion, kind, r.uid, .denied e.message⟩

/-- The answer to a review that is given as the bytes of its text. -/
def answer (body : List UInt8) : Answer :=
  match Json.decodeBytes Review.decode body with
  | .error e => .invalid e.message
  | .ok review =>
    match review.request with
    | none => .invalid "failed to convert AdmissionReview into AdmissionRequest"
    | some r => answerRequest review.apiVersion review.kind r

/-- What a caller of the webhook gets. -/
inductive Reply where
  | notFound
  | review (a : Answer)
  deriving DecidableEq, Repr

namespace Reply

def code : Reply → UInt16
  | notFound => 404
  | review _ => 200

def contentType : Reply → Option String
  | notFound => none
  | review _ => some "application/json"

def body : Reply → String
  | notFound => ""
  | review a => Json.text a.toJson

end Reply

/-- The characters in front of a query or a fragment. -/
def beforeQuery (cs : List Char) : String :=
  String.ofList (cs.takeWhile fun c => c != '?' && c != '#')

/-- What follows a scheme in a target. -/
def afterScheme? : List Char → Option (List Char)
  | ':' :: '/' :: '/' :: rest => some rest
  | c :: rest => if c = '/' || c = '?' || c = '#' then none else afterScheme? rest
  | [] => none

/-- The path of a target. A target with a scheme has the path of the root if it names no other; one
without a scheme that does not start with its path has none, unless it is the sign for no path. -/
def pathOf (target : String) : String :=
  match target.toList with
  | '/' :: rest => beforeQuery ('/' :: rest)
  | cs =>
    match afterScheme? cs with
    | some rest =>
      let path := beforeQuery (rest.dropWhile fun c => c != '/' && c != '?' && c != '#')
      if path = "" then "/" else path
    | none => if target = "*" then "*" else ""

/-- The reply to a request: a method, a target and the bytes of a body. -/
def replyTo (method target : String) (body : List UInt8) : Reply :=
  if method = "POST" && pathOf target = "/" then .review (answer body) else .notFound

/-- The reply to a request with a text as its body. -/
def reply (method target body : String) : Reply := replyTo method target (utf8 body)

end DeviceOnboard.Admission
