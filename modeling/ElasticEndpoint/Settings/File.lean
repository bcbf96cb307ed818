import ElasticEndpoint.Settings.Basic
import ElasticEndpoint.Text.Split
import ElasticEndpoint.Yaml.Load
import ElasticEndpoint.Yaml.Writer

/-!
Settings files. Settings are written with every field, in the order of their names, and read back
from any YAML mapping; an empty file counts as a mapping without entries.
-/

namespace ElasticEndpoint.Settings

inductive LoadFault where
  | yaml (fault : Yaml.Fault)
  | notMapping (kindName : String)
  | keyNotText
  | refused (refusal : Refusal)

def entries (settings : Settings) : List (String × Yaml.Plain) :=
  [("api_key", settings.apiKey.elim .null .text),
    ("api_server_port", .int settings.apiServerPort),
    ("api_timeout_s", .real settings.apiTimeout),
    ("api_url", .text settings.apiUrl),
    ("eip_tag", .text settings.eipTag),
    ("probe_timeout_s", .real settings.probeTimeout),
    ("project_id", .text settings.projectId),
    ("reconcile_interval_s", .int settings.interval),
    ("transport_error_policy", .text settings.policy.word)]

def save (settings : Settings) : String := Yaml.write settings.entries

/-- A key that can name a field. -/
def isTextKey : Value → Bool
  | .text _ | .brokenText _ => true
  | _ => false

def ofValue (value : Value) : Except LoadFault Settings :=
  if !value.truthy then (ofData []).mapError .refused
  else match value with
    | .map data =>
      if data.all fun entry => isTextKey entry.1 then (ofData data).mapError .refused
      else .error .keyNotText
    | value => .error (.notMapping value.kindName)

/-- The settings in the text of a file, whose line ends are all read as line feeds. -/
def load (text : String) : Except LoadFault Settings :=
  match Yaml.load (String.ofList (Text.unifyLineEnds text.toList)) with
  | .error fault => .error (.yaml fault)
  | .ok value => ofValue value

def LoadFault.message (name : String) : LoadFault → String
  | .yaml fault => fault.message name
  | .notMapping kindName =>
    s!"endpoint_manager.models.config.EndpointConfig() argument after ** must be a mapping, not {kindName}"
  | .keyNotText => "keywords must be strings"
  | .refused refusal => refusal.message

end ElasticEndpoint.Settings
