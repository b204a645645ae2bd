namespace LoadGen

/-!
# Statuses of answers

* `isServerError` — the statuses that count as failures;
* `statusText` — a status with its usual reason.
-/

/-- Whether a status tells of a failure of the server. -/
def isServerError (status : Nat) : Bool := 500 ≤ status && status < 600

/-- The usual reason of a failure of the server. -/
def serverErrorReason? : Nat → Option String
  | 500 => some "Internal Server Error"
  | 501 => some "Not Implemented"
  | 502 => some "Bad Gateway"
  | 503 => some "Service Unavailable"
  | 504 => some "Gateway Timeout"
  | 505 => some "HTTP Version Not Supported"
  | 506 => some "Variant Also Negotiates"
  | 507 => some "Insufficient Storage"
  | 508 => some "Loop Detected"
  | 510 => some "Not Extended"
  | 511 => some "Network Authentication Required"
  | _ => none

/-- A status of a failure with its reason. -/
def statusText (status : Nat) : String :=
  let reason := (serverErrorReason? status).getD "<unknown status code>"
  s!"{status} {reason}"

end LoadGen
