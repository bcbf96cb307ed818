import ElasticEndpoint.Duration
import ElasticEndpoint.Text.Utf8

/-!
Requests over HTTP and what comes of them: an answer with a status and a body, a failure of the
request, or a failure of the system below it.
-/

namespace ElasticEndpoint.Http

inductive Method where
  | get
  | post
  | delete
  deriving DecidableEq

def Method.name : Method → String
  | .get => "GET"
  | .post => "POST"
  | .delete => "DELETE"

inductive Parameter where
  | number (n : Nat)
  | word (s : String)
  deriving DecidableEq

structure Request where
  method : Method
  url : String
  timeout : Option Duration
  headers : List (String × String) := []
  params : Option (List (String × Parameter)) := none
  json : Option (List (String × String)) := none
  verify : Bool := true
  redirects : Bool := true
  deriving DecidableEq

/-- What comes of a request. A failed request names the kind of its failure. -/
inductive Outcome where
  | answered (status : Int) (body : List UInt8)
  | failed (kind text : String)
  | broken (text : String)
  deriving DecidableEq

end ElasticEndpoint.Http
