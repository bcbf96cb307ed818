import ElasticEndpoint.Job
import ElasticEndpoint.Net.HealthUrl
import ElasticEndpoint.Settings.Basic

/-!
Health checks. A server is asked for its health once, without following redirections and without
checking its certificate; it is healthy when it answers with status 200.
-/

namespace ElasticEndpoint

/-- What a health check comes to: a status, or the failure of the request. -/
inductive Health where
  | answered (status : Int)
  | unreachable (error : String)
  deriving DecidableEq

namespace Health

/-- Only status 200 is healthy. -/
def isHealthy : Health → Bool
  | .answered status => status == 200
  | .unreachable _ => false

def request (timeout : Option Duration) (url : String) : Http.Request where
  method := .get
  url := url
  timeout := timeout
  verify := false
  redirects := false

def probe (timeout : Option Duration) (url : String) : Job Health := do
  Job.log .health .debug s!"Health checking {url}"
  match ← Job.http (request timeout url) with
  | .broken text => Job.crash (.system text)
  | .failed kind text => do
    Job.log .health .error s!"HTTP client error during health check of {url}: {text}"
    return .unreachable s!"{kind}: {text}"
  | .answered status _ => do
    if status != 200 then
      Job.log .health .info s!"Health check of {url} returned HTTP {status}"
    else
      Job.log .health .debug s!"Health check of {url} succeeded"
    return .answered status

end Health

end ElasticEndpoint
