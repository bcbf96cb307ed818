import ElasticEndpoint.Problem

/-!
Faults of calls to the cluster. The cluster answers with a status, the connection to it fails, or
something else breaks; only the first two are answered for by the jobs that call.
-/

namespace ElasticEndpoint.Cluster

inductive Transport where
  | retriesExhausted
  | readTimeout
  | general
  | protocol
  | tls
  | decoding
  | location
  deriving DecidableEq

def Transport.name : Transport → String
  | .retriesExhausted => "MaxRetryError"
  | .readTimeout => "ReadTimeoutError"
  | .general => "HTTPError"
  | .protocol => "ProtocolError"
  | .tls => "SSLError"
  | .decoding => "DecodeError"
  | .location => "LocationValueError"

def Transport.message (text : String) : Transport → String
  | .retriesExhausted => s!"None: Max retries exceeded with url: {text} (Caused by None)"
  | .readTimeout => s!"None: {text}"
  | _ => text

/-- A fault that the jobs which call the cluster answer for. -/
inductive Fault where
  | answer (status : Option Int) (reason : Option String)
  | transport (kind : Transport) (text : String)
  deriving DecidableEq

/-- Something that may be left out, as reports show it. -/
def shownOption (text : Option String) : String := text.getD "None"

def Fault.description : Fault → String
  | .answer status reason => s!"{shownOption (status.map toString)} {shownOption reason}"
  | .transport kind text => s!"{kind.name}: {kind.message text}"

def Fault.isNotFound : Fault → Bool
  | .answer (some 404) _ => true
  | _ => false

/-- What a call fails with: a fault, or a crash that is nobody's to answer for. -/
inductive CallFailure where
  | fault (fault : Fault)
  | crash (crash : Crash)

end ElasticEndpoint.Cluster
