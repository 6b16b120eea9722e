import ConversionScheduler.Url.Basic
/-!
# Requests to workers

A request is one call of the client that sends it. The client may follow redirects on its own before
it hands back an answer. Those further requests are not modelled: the outcome is what the client
hands back in the end, whoever it came from.

## Main definitions

* `Http.Request` — what is sent.
* `Http.Outcome` — what becomes of it.
-/

namespace ConversionScheduler.Http

/-- What a request asks for. -/
inductive Method
  | get
  | post
deriving DecidableEq

/-- The word for a method. -/
def Method.word : Method → String
  | .get => "GET"
  | .post => "POST"

/-- A request. A body is JSON text. -/
structure Request where
  method : Method
  url : Url
  body : Option String
deriving DecidableEq

/-- What the client hands back for a request: no answer in time, or a status and a body, of which
not everything that was announced need have arrived. Redirects have been followed by then. -/
inductive Outcome
  | unanswered
  | answered (status : Nat) (body : List UInt8) (complete : Bool)
deriving DecidableEq

end ConversionScheduler.Http
