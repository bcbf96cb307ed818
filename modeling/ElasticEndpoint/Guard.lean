/-!
The guard of single flight. At most one pass at a time is between entering and leaving; a second one
is refused, not queued.
-/

namespace ElasticEndpoint

inductive Guard where
  | idle
  | busy
  deriving DecidableEq

namespace Guard

def word : Guard → String
  | .idle => "idle"
  | .busy => "busy"

/-- Entering succeeds exactly when the guard is idle, and leaves it busy. -/
def tryEnter : Guard → Bool × Guard
  | .idle => (true, .busy)
  | .busy => (false, .busy)

/-- Leaving is an error exactly when the guard is idle, and leaves it idle. -/
def leave : Guard → Bool × Guard
  | .idle => (false, .idle)
  | .busy => (true, .idle)

/-- The wording of leaving while idle. -/
def leftWhileIdle : String := "ExecutionGuard.exit() called while idle"

/-- A step of a script over one guard: entering, leaving, failing, or steps inside an attempt. -/
inductive Step where
  | tryEnter
  | leave
  | fail
  | attempt (body : List Step)
  deriving Inhabited

/-- What ends a script early. -/
inductive Interruption where
  | failed
  | leftWhileIdle
  deriving DecidableEq

/-- What a step of a script shows, with the state after it. -/
inductive Observation where
  | entered (success : Bool) (state : Guard)
  | left (success : Bool) (state : Guard)
  | attempted (success : Bool) (state : Guard)
  | attemptEnded (interruption : Option Interruption) (state : Guard)
  deriving DecidableEq

/-- Leaves an attempt: only one that was entered leaves the guard, and leaving an idle guard takes
the place of whatever interrupted the body. -/
def endAttempt (entered : Bool) (interruption : Option Interruption) (state : Guard) :
    Option Interruption × Guard :=
  if entered then
    let (success, state) := state.leave
    (if success then interruption else some .leftWhileIdle, state)
  else (interruption, state)

mutual

/-- What a step shows, what interrupts the steps after it, and the state. An interruption that comes
out of an attempt ends there. -/
def Step.observe : Step → Guard → List Observation × Option Interruption × Guard
  | .tryEnter, state =>
    let (success, state) := state.tryEnter
    ([.entered success state], none, state)
  | .leave, state =>
    let (success, state) := state.leave
    ([.left success state], none, state)
  | .fail, state => ([], some .failed, state)
  | .attempt body, state =>
    let (entered, state) := state.tryEnter
    let (shown, interruption, inner) := observeAll body state
    let (interruption, last) := endAttempt entered interruption inner
    (.attempted entered state :: shown ++ [.attemptEnded interruption last], none, last)

/-- What steps show up to the first interruption. -/
def observeAll : List Step → Guard → List Observation × Option Interruption × Guard
  | [], state => ([], none, state)
  | step :: rest, state =>
    let (shown, interruption, state) := step.observe state
    match interruption with
    | some _ => (shown, interruption, state)
    | none =>
      let (more, interruption, state) := observeAll rest state
      (shown ++ more, interruption, state)

end

end Guard

end ElasticEndpoint
