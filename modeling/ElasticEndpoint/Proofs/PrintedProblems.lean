import ElasticEndpoint.Proofs.PlainMarkup
import ElasticEndpoint.Proofs.SessionSteps

/-!
Printed problems. A problem is printed with everything in its message and its details that can be seen, as long as
both are clear and steady. If one of them is not clear, printing ends the session or loses marks of markup.
-/

namespace ElasticEndpoint

open Text (visible IsSteady)
open Console (printed)
open Console.Markup (IsClear marks isDropped)

namespace Console

private theorem visible_intercalate (lines : List (List Char)) : visible (['\n'].intercalate lines) = visible lines.flatten := by
  have hidden : visible ['\n'] = [] := rfl
  induction lines with
  | nil => rfl
  | cons line rest ih =>
    cases rest with
    | nil => simp
    | cons next rest =>
      rw [List.intercalate_cons_cons, Text.visible_append, Text.visible_append, ih, hidden, List.append_nil,
        ← Text.visible_append]
      rfl

private theorem visible_lines (lines : List (List Char)) :
    visible ("\n".intercalate (lines.map String.ofList) ++ "\n").toList = visible lines.flatten := by
  have hidden : visible "\n".toList = [] := rfl
  have same : (lines.map String.ofList).map String.toList = lines := by simp
  rw [String.toList_append, Text.visible_append, hidden, List.append_nil, String.toList_intercalate, same]
  exact visible_intercalate lines

private theorem printed_eq_ok {text screen : String} (shows : printed text = .ok screen) :
    ∃ shown, Markup.read text = .ok shown ∧
      visible screen.toList = visible (wrap .fold screenWidth shown.text).flatten := by
  obtain ⟨shown, read, drawn⟩ := Markup.ok_of_bind shows
  refine ⟨shown, read, ?_⟩
  obtain ⟨lines, ended, joined⟩ := Markup.ok_of_bind drawn
  unfold Shown.lines at ended
  dsimp only at ended
  split at ended
  · cases ended
  · cases ended
    cases joined
    exact visible_lines _

/-- A text whose styles can be read is put on the screen line by line. -/
theorem printed_of_read {text : String} {shown : Shown} (read : Markup.read text = .ok shown)
    (styled : ∀ span ∈ shown.spans, (readStyle span.style).toBool = true) :
    ∃ screen, printed text = .ok screen ∧
      visible screen.toList = visible (wrap .fold screenWidth shown.text).flatten := by
  have lines : shown.lines .fold screenWidth = .ok (wrap .fold screenWidth shown.text) := by
    unfold Shown.lines
    dsimp only
    rw [List.find?_eq_none.mpr]
    intro span member
    have legible := styled span member
    cases style : readStyle span.style with
    | error fault =>
      rw [style] at legible
      cases legible
    | ok style => simp
  unfold printed
  rw [read]
  change ∃ screen, (shown.lines .fold screenWidth >>= _) = .ok screen ∧ _
  rw [lines]
  exact ⟨_, rfl, visible_lines _⟩

/-- A text behind a marked word is put on the screen line by line, if no style is in it. -/
theorem printed_marked {source style : String} {name word text shown : List Char}
    (isMarked : Markup.IsMarked name word style) (whole : source.toList = Markup.marked name word ++ ' ' :: text)
    (further : Markup.showPieces word.length [] (Markup.pieces (' ' :: text)) = .ok ⟨shown, []⟩) :
    ∃ screen, printed source = .ok screen ∧
      visible screen.toList = visible (wrap .fold screenWidth (word ++ shown)).flatten := by
  have read : Markup.read source = .ok ⟨word ++ shown, [⟨0, word.length, style.toList⟩]⟩ := by
    unfold Markup.read
    rw [whole, Markup.showPieces_marked isMarked, further]
    rfl
  exact printed_of_read read (List.forall_mem_singleton.mpr isMarked.legible)

/-- What is on the screen has no more marks than what is shown. -/
theorem marks_printed {text screen : String} (shows : printed text = .ok screen) :
    ∃ shown, Markup.read text = .ok shown ∧ marks screen.toList ≤ marks shown.text := by
  obtain ⟨shown, read, same⟩ := printed_eq_ok shows
  have most := Markup.marks_sublist (@visible_wrap_sublist screenWidth shown.text)
  rw [← same, Markup.marks_visible, Markup.marks_visible] at most
  exact ⟨shown, read, most⟩

end Console

namespace CommandLine.Session

open Console.Markup (read pieces showPieces showPieces_marked isMarked_error marked Piece.text)

/-- A text behind the mark of errors, as markup. -/
def errorText (text : String) : String := s!"[red]Error:[/red] {text}"

/-- A text on the line behind the next one, as markup. -/
def detailsText (text : String) : String := s!"\n{text}"

private theorem toList_errorText (text : String) :
    (errorText text).toList = marked "red".toList "Error:".toList ++ ' ' :: text.toList := by
  have front : "[red]Error:[/red] ".toList = marked "red".toList "Error:".toList ++ [' '] := by decide +kernel
  change ("[red]Error:[/red] " ++ text).toList = _
  rw [String.toList_append, front, List.append_assoc]
  rfl

private theorem toList_detailsText (text : String) : (detailsText text).toList = '\n' :: text.toList := by
  change ("\n" ++ text).toList = _
  rw [String.toList_append]
  rfl

/-- What is on the screen behind the mark of errors: the mark has one colon itself. -/
theorem marks_errorText {text screen : String} (shows : printed (errorText text) = .ok screen) :
    (IsClear text.toList ∧ marks screen.toList ≤ marks text.toList + 1) ∨
      marks screen.toList + 1 ≤ marks text.toList := by
  obtain ⟨shown, read, most⟩ := Console.marks_printed shows
  unfold Console.Markup.read at read
  rw [toList_errorText, showPieces_marked isMarked_error] at read
  cases further : showPieces "Error:".toList.length [] (pieces (' ' :: text.toList)) with
  | error fault =>
    rw [further] at read
    cases read
  | ok behind =>
    rw [further] at read
    cases read
    have colon : marks "Error:".toList = 1 := by decide +kernel
    rw [Console.Markup.marks_append, colon, Console.Markup.showPieces_text further] at most
    rcases Console.Markup.pieces_marks (show Console.Markup.mark ' ' = 0 from rfl) text.toList with ⟨clear, fewer⟩ | fewer
    · exact .inl ⟨clear, by omega⟩
    · exact .inr (by omega)

private theorem marks_detailsText {text screen : String} (shows : printed (detailsText text) = .ok screen) :
    (IsClear text.toList ∧ marks screen.toList ≤ marks text.toList) ∨
      marks screen.toList + 2 ≤ marks text.toList := by
  obtain ⟨shown, read, most⟩ := Console.marks_printed shows
  unfold Console.Markup.read at read
  rw [toList_detailsText] at read
  rw [Console.Markup.showPieces_text read] at most
  rcases Console.Markup.pieces_marks (show Console.Markup.mark '\n' = 0 from rfl) text.toList with ⟨clear, fewer⟩ | fewer
  · exact .inl ⟨clear, by omega⟩
  · exact .inr (by omega)

private theorem visible_kept (text : List Char) : visible (text.filter fun c => !isDropped c) = visible text := by
  unfold visible
  rw [List.filter_filter]
  congr 1
  funext c
  cases dropped : isDropped c with
  | false => simp
  | true =>
    simp only [isDropped, Bool.or_eq_true, beq_iff_eq] at dropped
    rcases dropped with (((rfl | rfl) | rfl) | rfl) | rfl <;> rfl

private theorem steady_shown {c : Char} {text : List Char} (first : IsSteady [c]) (steady : IsSteady text) :
    IsSteady ((c :: text).filter fun c => !isDropped c) :=
  fun other member => first.append steady other (List.mem_filter.mp member).1

private theorem shown_errorText {text : String} (clear : IsClear text.toList) (steady : IsSteady text.toList) :
    ∃ screen, printed (errorText text) = .ok screen ∧
      visible screen.toList = "Error:".toList ++ visible text.toList := by
  have mark : visible "Error:".toList = "Error:".toList := by decide +kernel
  have steadyMark : IsSteady "Error:".toList := .of_all (by decide +kernel)
  have kept : IsSteady ((' ' :: text.toList).filter fun c => !isDropped c) := steady_shown (.of_all rfl) steady
  obtain ⟨screen, shows, same⟩ := Console.printed_marked isMarked_error (toList_errorText text)
    (Console.Markup.showPieces_clear rfl clear _)
  refine ⟨screen, shows, ?_⟩
  rw [same, Console.visible_wrap_steady (steadyMark.append kept) (by decide), Text.visible_append, visible_kept, mark]
  rfl

private theorem shown_detailsText {text : String} (clear : IsClear text.toList) (steady : IsSteady text.toList) :
    ∃ screen, printed (detailsText text) = .ok screen ∧ visible screen.toList = visible text.toList := by
  have read : Console.Markup.read (detailsText text) =
      .ok ⟨('\n' :: text.toList).filter fun c => !isDropped c, []⟩ := by
    unfold Console.Markup.read
    rw [toList_detailsText, Console.Markup.showPieces_clear rfl clear]
  have kept : IsSteady (('\n' :: text.toList).filter fun c => !isDropped c) := steady_shown (.of_all rfl) steady
  obtain ⟨screen, shows, same⟩ := Console.printed_of_read read (List.forall_mem_nil _)
  refine ⟨screen, shows, ?_⟩
  rw [same, Console.visible_wrap_steady kept (by decide), visible_kept]
  rfl

/-- What steps put on the screen. -/
def shown (steps : List Step) : List Char :=
  steps.flatMap fun
    | ⟨.print text, _⟩ => text.toList
    | _ => []

private theorem ends_print {text : String} {steps : List Step} :
    (print text).Ends steps (.ok ()) ↔ ∃ screen, printed text = .ok screen ∧ steps = [⟨.print screen, ()⟩] := by
  unfold print put
  cases printed text with
  | error fault =>
    constructor
    · intro ended
      obtain ⟨-, ⟨⟩⟩ := Program.ends_done.mp ended
    · rintro ⟨_, ⟨⟩, -⟩
  | ok screen =>
    constructor
    · intro ended
      obtain ⟨_, _, rfl, later⟩ := Program.ends_ask.mp ended
      obtain ⟨rfl, -⟩ := Program.ends_done.mp later
      exact ⟨screen, rfl, rfl⟩
    · rintro ⟨_, ⟨⟩, rfl⟩
      exact .ask (.done _)

theorem ends_print_bind {α : Type} {text : String} {next : Unit → Session α} {steps : List Step} {value : α} :
    (print text >>= next).Ends steps (.ok value) ↔
      ∃ screen rest, printed text = .ok screen ∧ steps = ⟨.print screen, ()⟩ :: rest ∧
        (next ()).Ends rest (.ok value) := by
  rw [Program.ends_bind]
  constructor
  · rintro (⟨_, ⟨⟩, -⟩ | ⟨_, first, rest, rfl, ended, later⟩)
    obtain ⟨screen, shows, rfl⟩ := ends_print.mp ended
    exact ⟨screen, rest, shows, rfl, later⟩
  · rintro ⟨screen, rest, shows, rfl, later⟩
    exact .inr ⟨(), _, rest, rfl, ends_print.mpr ⟨screen, shows, rfl⟩, later⟩

end CommandLine.Session

namespace Problem

/-- The message of a problem, with its details if there are any. -/
def words (problem : Problem) : List Char := problem.message.toList ++ (problem.details.getD "").toList

/-- A problem whose texts hold no markup. -/
structure IsClear (problem : Problem) : Prop where
  message : Console.Markup.IsClear problem.message.toList
  details : Console.Markup.IsClear (problem.details.getD "").toList

end Problem

namespace CommandLine.Session

variable {problem : Problem} {steps : List Step}

/-- A problem is printed in one text, or in two if it has details. -/
theorem ends_printProblem :
    (printProblem problem).Ends steps (.ok ()) ↔ ∃ screen rest, printed (errorText problem.message) = .ok screen ∧
      steps = ⟨.print screen, ()⟩ :: rest ∧
      if (problem.details.getD "").isEmpty then rest = []
      else ∃ below, printed (detailsText (problem.details.getD "")) = .ok below ∧ rest = [⟨.print below, ()⟩] := by
  have done {rest : List Step} : (pure () : Session Unit).Ends rest (.ok ()) ↔ rest = [] := by
    rw [show (pure () : Session Unit) = .done (.ok ()) from rfl, Program.ends_done]
    simp
  change (print (errorText problem.message) >>= _).Ends steps (.ok ()) ↔ _
  rw [ends_print_bind]
  cases problem.details with
  | none =>
    simp only [done]
    rfl
  | some details =>
    dsimp only
    by_cases empty : details.isEmpty = true
    · simp only [empty, if_true, done, Option.getD_some]
    · simp only [empty, Bool.false_eq_true, if_false, Option.getD_some]
      have below : print s!"\n{details}" = print (detailsText details) := rfl
      simp only [below, ends_print]

private theorem isClear_empty : Console.Markup.IsClear "".toList where
  unescaped := rfl
  unnamed := rfl
  untagged := List.forall_mem_nil _

/-- A problem that has been printed with all that can be seen of it is clear. -/
theorem clear_of_printed (ended : (printProblem problem).Ends steps (.ok ()))
    (faithful : (visible problem.words).Sublist (visible (shown steps))) : problem.IsClear := by
  obtain ⟨screen, rest, message, rfl, further⟩ := ends_printProblem.mp ended
  have most := Console.Markup.marks_sublist faithful
  rw [Console.Markup.marks_visible, Console.Markup.marks_visible, Problem.words, Console.Markup.marks_append] at most
  change _ ≤ marks (screen.toList ++ shown rest) at most
  rw [Console.Markup.marks_append] at most
  have first := marks_errorText message
  have second : IsClear (problem.details.getD "").toList ∧ marks (shown rest) ≤ marks (problem.details.getD "").toList ∨
      marks (shown rest) + 2 ≤ marks (problem.details.getD "").toList := by
    split at further
    next empty =>
      have none : problem.details.getD "" = "" := by simpa using empty
      subst further
      rw [none]
      exact .inl ⟨isClear_empty, Nat.le_refl 0⟩
    next =>
      obtain ⟨below, details, rfl⟩ := further
      have whole : shown [⟨.print below, ()⟩] = below.toList := List.append_nil _
      rw [whole]
      exact marks_detailsText details
  rcases first with ⟨message, _⟩ | _ <;> rcases second with ⟨details, _⟩ | _
  · exact ⟨message, details⟩
  all_goals omega

/-- A clear problem is printed with all that can be seen of it, if it is steady. -/
theorem printed_of_clear (clear : problem.IsClear) (steady : IsSteady problem.words) :
    ∃ steps, (printProblem problem).Ends steps (.ok ()) ∧ (visible problem.words).Sublist (visible (shown steps)) := by
  obtain ⟨screen, message, first⟩ := shown_errorText clear.message steady.left
  have rest : ∃ rest, (if (problem.details.getD "").isEmpty then rest = []
      else ∃ below, printed (detailsText (problem.details.getD "")) = .ok below ∧ rest = [⟨.print below, ()⟩]) ∧
        visible (shown rest) = visible (problem.details.getD "").toList := by
    by_cases empty : (problem.details.getD "").isEmpty = true
    · have none : problem.details.getD "" = "" := by simpa using empty
      rw [none]
      exact ⟨[], rfl, rfl⟩
    · obtain ⟨below, details, second⟩ := shown_detailsText clear.details steady.right
      refine ⟨[⟨.print below, ()⟩], ?_, ?_⟩
      · rw [if_neg empty]
        exact ⟨below, details, rfl⟩
      · rw [← second]
        exact congrArg visible (List.append_nil _)
  obtain ⟨rest, further, second⟩ := rest
  refine ⟨_, ends_printProblem.mpr ⟨screen, rest, message, rfl, further⟩, ?_⟩
  change (visible problem.words).Sublist (visible (screen.toList ++ shown rest))
  rw [Problem.words, Text.visible_append, Text.visible_append, first, second]
  exact (List.sublist_append_right _ _).append (List.Sublist.refl _)

end CommandLine.Session

end ElasticEndpoint
