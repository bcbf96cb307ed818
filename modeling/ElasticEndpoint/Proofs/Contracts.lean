import ElasticEndpoint.Proofs.History

/-!
What programs ask for. A program is bound by the requests that it may make, and a contract lets these depend on
the replies that it was given so far. What every request that may be made keeps holds at every moment of a run.
-/

namespace ElasticEndpoint.Program

variable {ρ σ : Type} {Reply : ρ → Type} {ε ε' α β : Type} {allowed other : ρ → Prop}

/-- Every request that a program can make is allowed. -/
def Uses (allowed : ρ → Prop) : Program Reply ε α → Prop
  | .done _ => True
  | .ask request next => allowed request ∧ ∀ reply, (next reply).Uses allowed

theorem Uses.andThen {program : Program Reply ε α} {next : Except ε α → Program Reply ε' β}
    (first : program.Uses allowed) (rest : ∀ result, (next result).Uses allowed) :
    (program.andThen next).Uses allowed := by
  induction program with
  | done result => exact rest result
  | ask request later ih => exact ⟨first.1, fun reply => ih reply (first.2 reply)⟩

theorem Uses.bind {program : Program Reply ε α} {next : α → Program Reply ε β}
    (first : program.Uses allowed) (rest : ∀ value, (next value).Uses allowed) : (program >>= next).Uses allowed := by
  refine first.andThen fun result => ?_
  cases result with
  | ok value => exact rest value
  | error failure => trivial

theorem Uses.imp {program : Program Reply ε α} (uses : program.Uses allowed)
    (weaker : ∀ request, allowed request → other request) : program.Uses other := by
  induction program with
  | done result => trivial
  | ask request next ih => exact ⟨weaker request uses.1, fun reply => ih reply (uses.2 reply)⟩

theorem Uses.ends {program : Program Reply ε α} {history : List (Exchange Reply)} {result : Except ε α}
    (uses : program.Uses allowed) (ended : program.Ends history result) :
    ∀ exchange ∈ history, allowed exchange.request := by
  induction ended with
  | done => simp
  | ask _ ih =>
    intro exchange member
    rcases List.mem_cons.mp member with rfl | member
    · exact uses.1
    · exact ih (uses.2 _) exchange member

/-- What every allowed request keeps, a run keeps. -/
theorem Uses.run {program : Program Reply ε α} {answer : (r : ρ) → σ → Reply r × σ} {property : σ → Prop}
    (uses : program.Uses allowed)
    (kept : ∀ request, allowed request → ∀ state, property state → property (answer request state).2)
    {state : σ} (holds : property state) : property (program.run answer state).2 := by
  induction program generalizing state with
  | done result => exact holds
  | ask request next ih => exact ih _ (uses.2 _) (kept request uses.1 state holds)

/-- As long as a program is told what it relies on, it asks only for what it may, and ends as it should. -/
def Honours (told : Exchange Reply → Prop) (asks : ρ → Prop) (post : Except ε α → Prop) : Program Reply ε α → Prop
  | .done result => post result
  | .ask request next => asks request ∧ ∀ reply, told ⟨request, reply⟩ → (next reply).Honours told asks post

variable {told : Exchange Reply → Prop} {asks : ρ → Prop} {post : Except ε α → Prop}

theorem Honours.andThen {program : Program Reply ε α} {next : Except ε α → Program Reply ε' β}
    {last : Except ε' β → Prop} (first : program.Honours told asks post)
    (rest : ∀ result, post result → (next result).Honours told asks last) :
    (program.andThen next).Honours told asks last := by
  induction program with
  | done result => exact rest result first
  | ask request later ih => exact ⟨first.1, fun reply given => ih reply (first.2 reply given)⟩

theorem Honours.bind {program : Program Reply ε α} {next : α → Program Reply ε β} {last : Except ε β → Prop}
    (first : program.Honours told asks post) (rest : ∀ value, post (.ok value) → (next value).Honours told asks last)
    (failed : ∀ failure, post (.error failure) → last (.error failure)) :
    (program >>= next).Honours told asks last := by
  apply Honours.andThen first
  intro result ended
  cases result with
  | ok value => exact rest value ended
  | error failure => exact failed failure ended

theorem Uses.honours {program : Program Reply ε α} (uses : program.Uses asks) :
    program.Honours told asks fun _ => True := by
  induction program with
  | done result => trivial
  | ask request next ih => exact ⟨uses.1, fun reply _ => ih reply (uses.2 reply)⟩

theorem Honours.uses {program : Program Reply ε α} (honours : program.Honours (fun _ => True) asks post) :
    program.Uses asks := by
  induction program with
  | done result => trivial
  | ask request next ih => exact ⟨honours.1, fun reply => ih reply (honours.2 reply trivial)⟩

/-- A property that gives a program what it relies on, and is kept by what the program asks for, holds at every
moment of a run. -/
theorem Honours.keeps {program : Program Reply ε α} {answer : (r : ρ) → σ → Reply r × σ} {property : σ → Prop}
    (honours : program.Honours told asks post)
    (tells : ∀ request state, property state → told ⟨request, (answer request state).1⟩)
    (kept : ∀ request state, asks request → property state → property (answer request state).2)
    {state middle : σ} (holds : property state) {past rest : List (Exchange Reply)}
    (split : program.history answer state = past ++ rest) (answered : Answers answer state past middle) :
    property middle := by
  induction past generalizing program state with
  | nil =>
    obtain rfl := answers_nil.mp answered
    exact holds
  | cons exchange past ih =>
    cases program with
    | done result => cases split
    | ask request next =>
      obtain ⟨rfl, later⟩ := List.cons.inj split
      exact ih (honours.2 _ (tells request state holds)) (kept request state honours.1 holds) later
        (answers_cons.mp answered).2

end ElasticEndpoint.Program
