/-!
Reservations of elastic addresses. A reservation is one address held for a project, with tags that
tell what it is for and with its present assignments to devices.
-/

namespace ElasticEndpoint

structure Assignment where
  id : String
  address : Option String
  device : Option String
  deriving DecidableEq

structure Reservation where
  id : String
  address : String
  tags : List String
  assignments : List Assignment
  deriving DecidableEq

namespace Reservation

/-- A reservation carries all of some tags when each is among its own. -/
def hasAllTags (reservation : Reservation) (tags : List String) : Bool :=
  tags.all reservation.tags.contains

def firstWith (tags : List String) (reservations : List Reservation) : Option Reservation :=
  reservations.find? (·.hasAllTags tags)

end Reservation

end ElasticEndpoint
