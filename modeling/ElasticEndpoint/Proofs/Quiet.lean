import ElasticEndpoint.Proofs.PassRequests
import ElasticEndpoint.Proofs.WorldActs

/-!
Quiet jobs. A quiet job asks for no change of an assignment, leaves the guard alone and remembers no
move, whatever it is told. All that publishes services is quiet.
-/

namespace ElasticEndpoint

/-- Whether a request leaves alone the assignments, the guard and what is remembered. -/
def Request.isQuiet : Request → Bool
  | .enterGuard | .leaveGuard | .remember _ | .metal (.assign _ _) | .metal (.unassign _) => false
  | _ => true

namespace World

/-- What a quiet request leaves as it is. -/
structure Still (first last : World) : Prop where
  ledger : last.ledger = first.ledger
  lastMove : last.lastMove = first.lastMove
  guard : last.guard = first.guard
  assigns : last.metalFaults .assign = first.metalFaults .assign

theorem Still.refl (world : World) : Still world world := ⟨rfl, rfl, rfl, rfl⟩

theorem Still.trans {first middle last : World} (before : Still first middle) (after : Still middle last) :
    Still first last where
  ledger := after.ledger.trans before.ledger
  lastMove := after.lastMove.trans before.lastMove
  guard := after.guard.trans before.guard
  assigns := after.assigns.trans before.assigns

theorem Same.still {first last : World} (same : Same last first) : Still first last := by
  rw [same.eq]
  exact ⟨rfl, rfl, rfl, rfl⟩

theorem still_answer {request : Request} (quiet : request.isQuiet = true) (world : World) :
    Still world (answer request world).2 where
  ledger := by
    apply answer_ledger
    cases request with
    | metal call =>
      cases call with
      | list project withAssignments => rfl
      | _ => cases quiet
    | _ => rfl
  lastMove := answer_lastMove (by rintro move rfl; cases quiet) world
  guard := answer_guard (by rintro rfl; cases quiet) (by rintro rfl; cases quiet) world
  assigns := by
    apply answer_metalFaults
    rintro call rfl
    cases call with
    | list project withAssignments => simp [Metal.Call.method]
    | _ => cases quiet

/-- Quiet acts leave the same as a quiet request. -/
theorem still_answers {acts : List Act} {first last : World} (answered : Program.Answers answer first acts last)
    (quiet : ∀ act ∈ acts, act.request.isQuiet = true) : Still first last :=
  answered.keeps (fun act member _ still => still.trans (still_answer (quiet act member) _)) (.refl first)

end World

namespace Job

abbrev Quiet {α : Type} (job : Job α) : Prop := job.Uses (·.isQuiet = true)

theorem Quiet.still {α : Type} {job : Job α} (quiet : job.Quiet) (world : World) :
    World.Still world (world.run job).2 :=
  Program.Uses.run quiet (fun _ allowed _ still => still.trans (World.still_answer allowed _)) (.refl world)

theorem quiet_observePort (port : Net.Port) : (observePort port).Quiet :=
  .bind ⟨rfl, fun _ => trivial⟩ fun before => .bind (uses_logAll (fun _ => rfl) (before.notices port)) fun _ => trivial

end Job

theorem ServicePass.quiet_run (setup : Setup) (services : List (Option Cluster.Service)) (mode : Mode) :
    (run setup services mode).Quiet := by
  apply Program.Honours.uses
  apply honours_run
  · exact fun _ => rfl
  · rfl
  · exact fun _ => rfl
  · intros
    rfl

end ElasticEndpoint
