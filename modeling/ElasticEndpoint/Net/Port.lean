import ElasticEndpoint.Value.Display

/-!
Ports of servers. A port is a number. Where other data stands in place of one, it is kept as it is
and shown as it is, and two ports are the same when their data is.
-/

namespace ElasticEndpoint.Net

inductive Port where
  | number (n : Int)
  | other (data : Value)
  deriving Inhabited

namespace Port

def ofValue : Value → Port
  | .int n => .number n
  | data => .other data

def toValue : Port → Value
  | .number n => .int n
  | .other data => data

def same : Port → Port → Bool
  | .number m, .number n => m == n
  | a, b => a.toValue.same b.toValue

def isUnknown (port : Port) : Bool := port.same (.number 0)

def shown : Port → String
  | .number n => toString n
  | .other data => data.shown

@[simp]
theorem isUnknown_number (n : Int) : (number n).isUnknown = (n == 0) := rfl

end Port

end ElasticEndpoint.Net
