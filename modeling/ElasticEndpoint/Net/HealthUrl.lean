import ElasticEndpoint.Net.IPv6
import ElasticEndpoint.Net.Port

/-!
Health addresses. The health of an interface server is asked for over TLS under one fixed path; an
address of the sixth version is put into brackets there, so that its colons are told from the one
before the port.
-/

namespace ElasticEndpoint.Net

def hostPart (address : String) : String :=
  if isIPv6 address.toList then "[" ++ address ++ "]" else address

def healthUrl (address : String) (port : Port) : String :=
  "https://" ++ hostPart address ++ ":" ++ port.shown ++ "/healthz"

end ElasticEndpoint.Net
