import ElasticEndpoint.Decimal.Binary64

/-!
Durations. A time limit in seconds is kept as it was given: a whole number or a binary one.
-/

namespace ElasticEndpoint

inductive Duration where
  | whole (seconds : Int)
  | real (seconds : Decimal.Binary64)
  deriving DecidableEq

end ElasticEndpoint
