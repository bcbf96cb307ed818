/-!
Programs that ask. A program is either done, with a value or a failure, or asks its surroundings
something and goes on with the reply. What the surroundings are is left open: a program can be run
against a model of them, interleaved with other programs one request at a time, or carried out; and
surroundings may break it off. Going on is associative, and a run of a program that goes on is a run
of its first part followed by a run of what that part decides on.
-/

namespace ElasticEndpoint

/-- A program over requests `ρ` with replies of the types that `Reply` gives, ending in a value or a
failure. -/
inductive Program {ρ : Type} (Reply : ρ → Type) (ε α : Type) : Type where
  | done (result : Except ε α)
  | ask (request : ρ) (next : Reply request → Program Reply ε α)

namespace Program

variable {ρ : Type} {Reply : ρ → Type} {ε ε' α β : Type}

/-- Goes on with whatever a program ends in, be it a value or a failure. -/
def andThen (program : Program Reply ε α) (next : Except ε α → Program Reply ε' β) : Program Reply ε' β :=
  match program with
  | .done result => next result
  | .ask request rest => .ask request fun reply => (rest reply).andThen next

/-- Goes on with the value of a program; a failure ends it. -/
def bind (program : Program Reply ε α) (next : α → Program Reply ε β) : Program Reply ε β :=
  program.andThen fun
    | .ok value => next value
    | .error failure => .done (.error failure)

instance : Monad (Program Reply ε) where
  pure value := .done (.ok value)
  bind := bind

def request (r : ρ) : Program Reply ε (Reply r) := .ask r fun reply => .done (.ok reply)

def fail (failure : ε) : Program Reply ε α := .done (.error failure)

/-- The value or failure of a program, as a value. -/
def attempt (program : Program Reply ε α) : Program Reply ε' (Except ε α) :=
  program.andThen fun result => .done (.ok result)

/-- Runs a program in surroundings with a state: each request is answered from the state and may
change it. -/
def run {σ : Type} (answer : (r : ρ) → σ → Reply r × σ) : Program Reply ε α → σ → Except ε α × σ
  | .done result, state => (result, state)
  | .ask request next, state =>
    let (reply, state) := answer request state
    (next reply).run answer state

/-- Runs a program in surroundings that may break it off at any request: then nothing goes on. -/
def tryRun {σ χ : Type} (answer : (r : ρ) → σ → Except χ (Reply r) × σ) :
    Program Reply ε α → σ → Except χ (Except ε α) × σ
  | .done result, state => (.ok result, state)
  | .ask request next, state =>
    match answer request state with
    | (.ok reply, state) => (next reply).tryRun answer state
    | (.error reason, state) => (.error reason, state)

/-- Replaces every request of a program by a program over other requests. -/
def interpret {ρ' : Type} {Reply' : ρ' → Type} (serve : (r : ρ) → Program Reply' ε (Reply r)) :
    Program Reply ε α → Program Reply' ε α
  | .done result => .done result
  | .ask request next => (serve request).bind fun reply => (next reply).interpret serve

variable {ε'' γ : Type}

theorem andThen_done (program : Program Reply ε α) : program.andThen .done = program := by
  induction program with
  | done result => rfl
  | ask request next ih => simp only [andThen, ih]

theorem andThen_andThen (program : Program Reply ε α) (first : Except ε α → Program Reply ε' β)
    (second : Except ε' β → Program Reply ε'' γ) :
    (program.andThen first).andThen second = program.andThen fun result => (first result).andThen second := by
  induction program with
  | done result => rfl
  | ask request next ih => simp only [andThen, ih]

theorem bind_assoc (program : Program Reply ε α) (first : α → Program Reply ε β)
    (second : β → Program Reply ε γ) :
    (program.bind first).bind second = program.bind fun value => (first value).bind second := by
  unfold bind
  rw [andThen_andThen]
  congr 1
  funext result
  cases result <;> rfl

theorem bind_pure (program : Program Reply ε α) : program.bind pure = program := by
  unfold bind
  refine Eq.trans ?_ (andThen_done program)
  congr 1
  funext result
  cases result <;> rfl

instance : LawfulMonad (Program Reply ε) := LawfulMonad.mk' _ bind_pure (fun _ _ => rfl) bind_assoc

theorem run_andThen {σ : Type} (answer : (r : ρ) → σ → Reply r × σ) (program : Program Reply ε α)
    (next : Except ε α → Program Reply ε' β) (state : σ) :
    (program.andThen next).run answer state =
      (next (program.run answer state).1).run answer (program.run answer state).2 := by
  induction program generalizing state with
  | done result => rfl
  | ask request rest ih => simp only [andThen, run, ih]

theorem run_bind {σ : Type} (answer : (r : ρ) → σ → Reply r × σ) (program : Program Reply ε α)
    (next : α → Program Reply ε β) (state : σ) :
    (program.bind next).run answer state =
      match program.run answer state with
      | (.ok value, state) => (next value).run answer state
      | (.error failure, state) => (.error failure, state) := by
  unfold bind
  rw [run_andThen]
  cases program.run answer state with
  | mk result last => cases result <;> rfl

section

variable {σ χ : Type} (answer : (r : ρ) → σ → Except χ (Reply r) × σ)

theorem tryRun_request (r : ρ) (state : σ) :
    (request r : Program Reply ε (Reply r)).tryRun answer state =
      ((answer r state).1.map .ok, (answer r state).2) := by
  simp only [request, tryRun]
  rcases answer r state with ⟨reason | reply, after⟩ <;> rfl

theorem tryRun_andThen (program : Program Reply ε α) (next : Except ε α → Program Reply ε' β) (state : σ) :
    (program.andThen next).tryRun answer state =
      match program.tryRun answer state with
      | (.ok result, state) => (next result).tryRun answer state
      | (.error reason, state) => (.error reason, state) := by
  induction program generalizing state with
  | done result => rfl
  | ask request rest ih =>
    simp only [andThen, tryRun]
    rcases answer request state with ⟨reason | reply, after⟩
    · rfl
    · exact ih reply after

theorem tryRun_bind (program : Program Reply ε α) (next : α → Program Reply ε β) (state : σ) :
    (program.bind next).tryRun answer state =
      match program.tryRun answer state with
      | (.ok (.ok value), state) => (next value).tryRun answer state
      | (.ok (.error failure), state) => (.ok (.error failure), state)
      | (.error reason, state) => (.error reason, state) := by
  unfold bind
  rw [tryRun_andThen]
  rcases program.tryRun answer state with ⟨reason | failure | value, after⟩ <;> rfl

/-- As long as surroundings break nothing off, a run in them is a run with their replies. -/
theorem tryRun_eq_run {answer' : (r : ρ) → σ → Reply r × σ} {kept : σ → Prop}
    (replies : ∀ request state, kept state →
      answer request state = (.ok (answer' request state).1, (answer' request state).2) ∧
        kept (answer' request state).2)
    (program : Program Reply ε α) {state : σ} (holds : kept state) :
    program.tryRun answer state = (.ok (program.run answer' state).1, (program.run answer' state).2) := by
  induction program generalizing state with
  | done result => rfl
  | ask request next ih =>
    obtain ⟨reply, still⟩ := replies request state holds
    simp only [tryRun, run, reply]
    exact ih _ still

end

end Program

end ElasticEndpoint
