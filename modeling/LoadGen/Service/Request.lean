import LoadGen.Net.Target
import LoadGen.Text.Token

namespace LoadGen.Service

/-!
# Requests to the mock service

A request has a method and a path.  It cannot be made of any two texts.

* `Request.make` — the request with a method and a target;
* `RequestError` — the reasons why there is none.
-/

/-- Why there is no request with a method and a target. -/
inductive RequestError where
  | invalidMethod
  | invalidTarget (cause : Net.TargetError)
  deriving DecidableEq, Repr

/-- What is reported about texts that make no request. -/
def RequestError.message : RequestError → String
  | invalidMethod => "invalid HTTP method"
  | invalidTarget cause => cause.message

/-- A request.  Of its target only the path counts. -/
structure Request where
  method : String
  path : String
  deriving DecidableEq, Repr

namespace Request

/-- The request with a method and a target. -/
def make (method target : String) : Except RequestError Request :=
  if !Text.isToken method then .error .invalidMethod
  else match Net.Target.ofText target with
    | .ok target => .ok { method, path := target.path }
    | .error cause => .error (.invalidTarget cause)

end Request

end LoadGen.Service
