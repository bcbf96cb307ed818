import ElasticEndpoint.Http

/-!
Scripts of answers over HTTP. A script gives its answers in order whatever is asked, or has a queue
of answers for each method and address, of which the last is given again and again.
-/

namespace ElasticEndpoint.Http

inductive Script where
  | inOrder (outcomes : List Outcome)
  | byTarget (queues : List (String × List Outcome))

namespace Script

def refused : Outcome := .failed "ConnectionError" "connection refused"

/-- What a request is answered with, and the script for those after it. -/
def serve (request : Request) : Script → Outcome × Script
  | .inOrder [] => (.failed "ConnectionError" "no more responses", .inOrder [])
  | .inOrder (outcome :: rest) => (outcome, .inOrder rest)
  | .byTarget queues =>
    let target := request.method.name ++ " " ++ request.url
    match queues.lookup target with
    | none | some [] => (refused, .byTarget queues)
    | some [outcome] => (outcome, .byTarget queues)
    | some (outcome :: rest) =>
      (outcome, .byTarget (queues.map fun entry => if entry.1 == target then (target, rest) else entry))

end Script

end ElasticEndpoint.Http
