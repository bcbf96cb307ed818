import ElasticEndpoint.Complaint
import ElasticEndpoint.Text.Blank
import ElasticEndpoint.Text.Digit
import ElasticEndpoint.Decimal.Reading
import ElasticEndpoint.Decimal.Shortest

/-!
Settings. Data from a file or a command line is accepted as settings when every field has, or can be
read as, a value of its kind that its rule allows. Numbers may be given as text, integers as numbers
without a fraction, and truth values as zero and one.
-/

namespace ElasticEndpoint

open Decimal (Binary64)

/-- What a failure to reach the elastic address means: that it is down, or an error. -/
inductive TransportPolicy where
  | unhealthy
  | error
  deriving DecidableEq

def TransportPolicy.word : TransportPolicy → String
  | .unhealthy => "unhealthy"
  | .error => "error"

/-- The settings of the program. Port zero means that the port is learned from the cluster. -/
structure Settings where
  projectId : String
  eipTag : String
  apiKey : Option String
  apiUrl : String
  apiServerPort : Int
  probeTimeout : Binary64
  apiTimeout : Binary64
  interval : Int
  policy : TransportPolicy
  deriving DecidableEq

namespace Settings

/-- Where the cloud interface is reached unless the settings name another address. -/
def defaultApiUrl : String := "https://api.equinix.com/metal/v1"

/-- Five seconds for a health check unless the settings give another time. -/
def defaultProbeTimeout : Binary64 := Binary64.ofInt 5

/-- Thirty seconds for a call unless the settings give another time. -/
def defaultApiTimeout : Binary64 := Binary64.ofInt 30

/-- Leading zeros, and underscores among them, are dropped up to a digit or a minus; one zero stays
before a point, and of zeros alone the last character. A text that does not begin with a digit is no
integer. -/
def dropLeadingZeros : List Char → Option (List Char)
  | '0' :: rest =>
    let zeros := rest.takeWhile fun c => c == '0' || c == '_'
    let after := rest.drop zeros.length
    match after with
    | [] => some [('0' :: zeros).getLast (by simp)]
    | '.' :: _ => some (('0' :: zeros).getLast (by simp) :: after)
    | c :: _ => if ('1' ≤ c && c ≤ '9') || c == '-' then some after else none
  | c :: rest => if '1' ≤ c && c ≤ '9' then some (c :: rest) else none
  | [] => none

/-- A text without leading zeros; they are looked for behind its minus. -/
def dropSignedZeros : List Char → Option (List Char)
  | '-' :: rest => (dropLeadingZeros rest).map ('-' :: ·)
  | text => dropLeadingZeros text

/-- A point with nothing but zeros behind it, and at least one, is dropped. -/
def dropZeroFraction (text : List Char) : List Char :=
  let whole := text.takeWhile (· != '.')
  match text.drop whole.length with
  | '.' :: c :: rest => if (c :: rest).all (· == '0') then whole else text
  | _ => text

/-- Single underscores inside a text are dropped; `none` when one stands at an end or beside
another. -/
def dropUnderscores (text : List Char) : Option (List Char) :=
  let doubled := (text.zip (text.drop 1)).any fun pair => pair.1 == '_' && pair.2 == '_'
  if text.head? == some '_' || text.getLast? == some '_' || doubled then none
  else some (text.filter (· != '_'))

/-- A text without blanks around it and without a plus sign before a number. -/
def dropPlus (text : List Char) : List Char :=
  match Text.trim Text.isWhiteSpace text with
  | '+' :: '-' :: _ => []
  | '+' :: rest => rest
  | trimmed => trimmed

/-- The integer of digits in their shortest form, after its sign; sign and digits are limited in
number. -/
def integerOf? (text : List Char) : Option Int :=
  let (negative, digits) := match text with
    | '-' :: rest => (true, rest)
    | rest => (false, rest)
  let shortest := match digits with
    | ['0'] => true
    | '0' :: _ => false
    | _ => !digits.isEmpty
  if !shortest || !digits.all Char.isDigit || Text.digitLimit < text.length then none
  else
    let magnitude : Int := Decimal.naturalOf digits
    some (if negative then -magnitude else magnitude)

/-- A text begins with more digits than an integer may have. The minus before them counts as one of
them, and what follows them does not matter. -/
def beginsTooLong (text : List Char) : Bool :=
  let (sign, rest) := match text with
    | '-' :: rest => (1, rest)
    | rest => (0, rest)
  let digits := rest.takeWhile Char.isDigit
  digits.head? != some '0' && Text.digitLimit < sign + digits.length

/-- The integer that a text denotes. Its length is a finding of its own only where the text begins
with its digits. -/
def readInteger (text : List Char) : Checked Int :=
  if beginsTooLong text then .error .integerTooLong
  else
    let cleaned? := (dropSignedZeros (dropPlus text)).bind fun rest => dropUnderscores (dropZeroFraction rest)
    match cleaned?.bind integerOf? with
    | some n => .ok n
    | none => .error .unreadableInteger

def readNumber (text : List Char) : Checked Binary64 :=
  match (Decimal.readNumber? (Text.trim Text.isWhiteSpace text)).or
      ((dropUnderscores text).bind Decimal.readNumber?) with
  | some x => .ok x
  | none => .error .unreadableNumber

/-- The magnitude from which on a number with a point is not read as an integer: two to the 63rd. -/
def realLimit : Nat := 9223372036854775808

def toInteger : Value → Checked Int
  | .int n => .ok n
  | .bool b => .ok (if b then 1 else 0)
  | .real x =>
    if !x.isFinite then .error .notFinite
    else match x.toInt? with
      | some n => if n.natAbs < realLimit then .ok n else .error .integerTooLong
      | none => .error .fractionalInteger
  | .text s => readInteger s.toList
  | .bytes bs => match Text.Utf8.decode? bs with
    | some s => readInteger s.toList
    | none => .error .unreadableInteger
  | .brokenText _ => .error .brokenText
  | _ => .error .notInteger

def toNumber : Value → Checked Binary64
  | .real x => .ok x
  | .int n => if (Binary64.ofInt n).isFinite then .ok (Binary64.ofInt n) else .error .notNumber
  | .bool b => .ok (Binary64.ofInt (if b then 1 else 0))
  | .text s => readNumber s.toList
  | .bytes bs => match Text.Utf8.decode? bs with
    | some s => readNumber s.toList
    | none => .error .unreadableNumber
  | .brokenText _ => .error .brokenText
  | _ => .error .notNumber

/-- Data accepted as a policy: one of its two words. -/
def toPolicy (data : Value) : Checked TransportPolicy :=
  match data.toText with
  | .ok "unhealthy" => .ok .unhealthy
  | .ok "error" => .ok .error
  | _ => .error .notPolicy

/-- A project must be named. -/
def checkProject (s : String) : Checked String :=
  if s.isEmpty then .error (.rule "project_id cannot be empty") else .ok s

/-- A rule that an integer broke, with the integer at the end; one with too many digits to be written
is a finding of its own. -/
def brokenRule (rule : String) (n : Int) : Complaint :=
  .rule (if Text.isTooLong n then Text.tooLongMessage else s!"{rule}, got {n}")

/-- A port is at most 65535; zero stands for a port to be learned. -/
def checkPort (n : Int) : Checked Int :=
  if 0 ≤ n && n ≤ 65535 then .ok n
  else .error (brokenRule "api_server_port must be between 0 and 65535" n)

/-- A time limit is not zero and not negative. -/
def checkTimeout (x : Binary64) : Checked Binary64 :=
  if x.isAtMostZero then .error (.rule s!"timeout must be positive, got {x.shortest}") else .ok x

/-- Passes are at least a second apart. -/
def checkInterval (n : Int) : Checked Int :=
  if n < 1 then .error (brokenRule "reconcile_interval_s must be at least 1" n) else .ok n

/-- The settings that some data gives, or a finding for every field at fault. Fields of other names
are ignored. -/
def ofData (data : List (Value × Value)) : Except Refusal Settings :=
  let projectId := requiredField data "project_id" fun v => do checkProject (← v.toText)
  let eipTag := optionalField data "eip_tag" "" Value.toText
  let apiKey := optionalField data "api_key" none Value.toOptionalText
  let apiUrl := optionalField data "api_url" defaultApiUrl Value.toText
  let port := optionalField data "api_server_port" 0 fun v => do checkPort (← toInteger v)
  let probeTimeout := optionalField data "probe_timeout_s" defaultProbeTimeout fun v => do checkTimeout (← toNumber v)
  let apiTimeout := optionalField data "api_timeout_s" defaultApiTimeout fun v => do checkTimeout (← toNumber v)
  let interval := optionalField data "reconcile_interval_s" 30 fun v => do checkInterval (← toInteger v)
  let policy := optionalField data "transport_error_policy" .unhealthy toPolicy
  match projectId, eipTag, apiKey, apiUrl, port, probeTimeout, apiTimeout, interval, policy with
  | .ok projectId, .ok eipTag, .ok apiKey, .ok apiUrl, .ok port, .ok probeTimeout, .ok apiTimeout,
      .ok interval, .ok policy =>
    .ok ⟨projectId, eipTag, apiKey, apiUrl, port, probeTimeout, apiTimeout, interval, policy⟩
  | _, _, _, _, _, _, _, _, _ =>
    .error ⟨"EndpointConfig", findingOf projectId ++ findingOf eipTag ++ findingOf apiKey ++
      findingOf apiUrl ++ findingOf port ++ findingOf probeTimeout ++ findingOf apiTimeout ++
      findingOf interval ++ findingOf policy⟩

/-- The key for the cloud interface: the one in the settings unless it is left out or empty, else
the one in the environment. -/
def resolvedKey (settings : Settings) (environment : Option String) : Option String :=
  match settings.apiKey with
  | some key => if key.isEmpty then environment else some key
  | none => environment

/-- Equality as numbers have it: a time limit that is no number differs from itself. -/
def same (a b : Settings) : Bool :=
  a == b && a.probeTimeout != .nan && a.apiTimeout != .nan

end Settings

end ElasticEndpoint
