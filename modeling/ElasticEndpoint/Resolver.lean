import ElasticEndpoint.Job

/-!
Resolving the elastic address. Its reservation is the first of the project that carries every tag
asked for. Reservations change behind the program's back, so each resolution lists them anew.
-/

namespace ElasticEndpoint.Resolver

/-- The reservation of a project that carries all of some tags; empty tags do not count, and there
must be another. -/
def resolve (project : String) (tags : List String) : Job (Option Reservation) := do
  let tags := tags.filter fun tag => !tag.isEmpty
  if tags.isEmpty then
    Job.problem .noTag
  else
    let reservations ← Job.metal (.list project true)
    match Reservation.firstWith tags reservations with
    | none => do
      Job.log .reservations .error
        ("Elastic IP not found. Please verify you have one with the expected tag: " ++ ", ".intercalate tags)
      return none
    | some reservation => do
      Job.log .reservations .debug
        (s!"Resolved elastic IP {reservation.address} ({reservation.id}) " ++
          s!"with {reservation.assignments.length} assignment(s)")
      return some reservation

end ElasticEndpoint.Resolver
