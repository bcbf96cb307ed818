import ElasticEndpoint.Text.Quoted

/-!
Faults of files: why something cannot be done with the file or folder at a path.
-/

namespace ElasticEndpoint.Files

inductive Cause where
  | missing
  | exists
  | notFolder
  | isFolder
  | nameTooLong
  /-- The path holds a character that no name can hold. -/
  | unnameable
  deriving DecidableEq

/-- The number under which the system reports a cause; a path that cannot be named never comes to the
system. -/
def Cause.number? : Cause → Option Nat
  | .missing => some 2
  | .exists => some 17
  | .notFolder => some 20
  | .isFolder => some 21
  | .nameTooLong => some 36
  | .unnameable => none

def Cause.wording : Cause → String
  | .missing => "No such file or directory"
  | .exists => "File exists"
  | .notFolder => "Not a directory"
  | .isFolder => "Is a directory"
  | .nameTooLong => "File name too long"
  | .unnameable => "embedded null byte"

structure Fault where
  cause : Cause
  path : String
  deriving DecidableEq

def Fault.isReported (fault : Fault) : Bool := fault.cause.number?.isSome

def Fault.message (fault : Fault) : String :=
  match fault.cause.number? with
  | some number => s!"[Errno {number}] {fault.cause.wording}: {Text.quoted fault.path}"
  | none => fault.cause.wording

end ElasticEndpoint.Files
