import LoadGen.Duration.Sleep
import LoadGen.Service.Request
import LoadGen.Service.Route

namespace LoadGen

/-!
# The mock service

A target for load runs.  It answers with the status that the path asks for, after the delay that the path
asks for, whatever the method, and counts what its handlers served.

* `MockService.handle` — the answer to a request;
* `MockService.handleAll` — the answers to requests one after another.
-/

namespace Service

/-- An answer, and how long it was held back, in milliseconds. -/
structure Response where
  status : Nat
  body : String := ""
  waited : Nat := 0
  deriving DecidableEq, Repr

/-- The status of an answer that is asked to have a status. -/
def statusFor (code : Nat) : Nat := if 100 ≤ code ∧ code ≤ 999 then code else 400

end Service

open Service

/-- The service, with the number of requests that its handlers served, counted in a 64-bit word. -/
structure MockService where
  served : Nat := 0
  deriving DecidableEq, Repr

namespace MockService

/-- Carries out an order. -/
def carryOut (order : Order) : Response :=
  { status := statusFor order.status, waited := sleepTime order.delay / nanosPerMilli }

/-- The answer to a request. -/
def handle (s : MockService) (request : Request) : MockService × Response :=
  match Route.ofPath? request.path with
  | none => (s, { status := 404 })
  | some route =>
    match route.read with
    | .error rejection => (s, { status := 400, body := rejection.message })
    | .ok order => ({ served := (s.served + 1) % wordCount }, carryOut order)

/-- The answers to requests one after another. -/
def handleAll (s : MockService) : List Request → MockService × List Response
  | [] => (s, [])
  | request :: rest =>
    let (s, response) := s.handle request
    let (s, responses) := handleAll s rest
    (s, response :: responses)

end MockService

end LoadGen
