import DeviceOnboard.Api.Cluster
import DeviceOnboard.Json.Printer

/-!
# A transport that follows a script

Requests are answered by responses that are laid down beforehand. When there are none left, an
object that is sent comes back as it was sent, and all else is not found.
-/
namespace DeviceOnboard.Simulation

open DeviceOnboard.Api

/-- The responses that are left, and the requests that were sent. -/
structure Transport where
  responses : List Response
  sent : List Request := []

namespace Transport

/-- The body of the response for an object that is not there. -/
def notFoundBody : String :=
  Json.text <| .record
    [.one "apiVersion" (.str "v1"), .one "code" (.int 404), .one "kind" (.str "Status"),
      .one "message" (.str "not found"), .one "reason" (.str "NotFound"),
      .one "status" (.str "Failure")]

/-- The response when the script has none. -/
def echo (q : Request) : Response :=
  match q.payload with
  | some p => ⟨200, Json.text p.json⟩
  | none => ⟨404, notFoundBody⟩

def answer (q : Request) (t : Transport) : Response × Transport :=
  let t' : Transport := ⟨t.responses.tail, t.sent ++ [q]⟩
  match t.responses with
  | r :: _ => (r, t')
  | [] => (echo q, t')

/-- The result of an exchange, and the requests that it sends. -/
def run {α : Type} (responses : List Response) (x : Exchange α) : α × List Request :=
  let (a, t) := x.answered answer ⟨responses, []⟩
  (a, t.sent)

end Transport

end DeviceOnboard.Simulation
