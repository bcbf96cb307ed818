import ElasticEndpoint.Job

/-!
Histories of programs. A history lists the requests of a run with the replies they got. A program
relates histories to results without naming its surroundings, so what holds of all its histories
holds in every surrounding, and a run is one history with the changes its surroundings went through.
-/

namespace ElasticEndpoint

/-- A request with the reply it got. -/
structure Exchange {ρ : Type} (Reply : ρ → Type) where
  request : ρ
  reply : Reply request

namespace Program

variable {ρ σ : Type} {Reply : ρ → Type} {ε ε' α β : Type}

/-- A program ends in a result once the exchanges of a history have taken place. -/
inductive Ends : Program Reply ε α → List (Exchange Reply) → Except ε α → Prop where
  | done (result) : Ends (.done result) [] result
  | ask {request next reply history result} (rest : Ends (next reply) history result) :
      Ends (.ask request next) (⟨request, reply⟩ :: history) result

theorem ends_done {result last : Except ε α} {history : List (Exchange Reply)} :
    (done result : Program Reply ε α).Ends history last ↔ history = [] ∧ last = result := by
  constructor
  · rintro ⟨⟩
    exact ⟨rfl, rfl⟩
  · rintro ⟨rfl, rfl⟩
    exact .done _

theorem ends_ask {request : ρ} {next : Reply request → Program Reply ε α}
    {history : List (Exchange Reply)} {result : Except ε α} :
    (ask request next).Ends history result ↔
      ∃ reply rest, history = ⟨request, reply⟩ :: rest ∧ (next reply).Ends rest result := by
  constructor
  · rintro ⟨⟩
    exact ⟨_, _, rfl, ‹_›⟩
  · rintro ⟨reply, rest, rfl, ended⟩
    exact .ask ended

theorem ends_andThen {program : Program Reply ε α} {next : Except ε α → Program Reply ε' β}
    {history : List (Exchange Reply)} {result : Except ε' β} :
    (program.andThen next).Ends history result ↔
      ∃ first middle rest, history = first ++ rest ∧ program.Ends first middle ∧
        (next middle).Ends rest result := by
  induction program generalizing history with
  | done middle =>
    constructor
    · intro ended
      exact ⟨[], middle, history, rfl, .done _, ended⟩
    · rintro ⟨first, middle, rest, rfl, ended, later⟩
      obtain ⟨rfl, rfl⟩ := ends_done.mp ended
      exact later
  | ask request rest ih =>
    simp only [andThen, ends_ask]
    constructor
    · rintro ⟨reply, tail, rfl, ended⟩
      obtain ⟨first, middle, later, rfl, ended, continued⟩ := (ih reply).mp ended
      exact ⟨_, middle, later, rfl, ⟨reply, first, rfl, ended⟩, continued⟩
    · rintro ⟨_, middle, later, rfl, ⟨reply, first, rfl, ended⟩, continued⟩
      exact ⟨reply, first ++ later, rfl, (ih reply).mpr ⟨first, middle, later, rfl, ended, continued⟩⟩

theorem ends_bind {program : Program Reply ε α} {next : α → Program Reply ε β} {history : List (Exchange Reply)}
    {result : Except ε β} :
    (program >>= next).Ends history result ↔
      (∃ failure, result = .error failure ∧ program.Ends history (.error failure)) ∨
        ∃ value first rest, history = first ++ rest ∧ program.Ends first (.ok value) ∧ (next value).Ends rest result := by
  change (Program.bind program next).Ends history result ↔ _
  unfold Program.bind
  rw [ends_andThen]
  constructor
  · rintro ⟨first, middle, rest, rfl, ended, later⟩
    cases middle with
    | ok value => exact .inr ⟨value, first, rest, rfl, ended, later⟩
    | error failure =>
      obtain ⟨rfl, rfl⟩ := ends_done.mp later
      exact .inl ⟨failure, rfl, by simpa using ended⟩
  · rintro (⟨failure, rfl, ended⟩ | ⟨value, first, rest, rfl, ended, later⟩)
    · exact ⟨history, .error failure, [], by simp, ended, ends_done.mpr ⟨rfl, rfl⟩⟩
    · exact ⟨first, .ok value, rest, rfl, ended, later⟩

/-- How the exchanges of a program become those of the programs that serve its requests. -/
inductive Renders {ρ' : Type} {Reply' : ρ' → Type} (serve : (r : ρ) → Program Reply' ε (Reply r)) :
    List (Exchange Reply) → List (Exchange Reply') → Prop where
  | nil : Renders serve [] []
  | cons {request reply before asked after} (served : (serve request).Ends asked (.ok reply))
      (rest : Renders serve before after) : Renders serve (⟨request, reply⟩ :: before) (asked ++ after)

/-- Where every request is served, a program with its requests served ends as it does alone. -/
theorem ends_interpret {ρ' : Type} {Reply' : ρ' → Type} {serve : (r : ρ) → Program Reply' ε (Reply r)}
    (serves : ∀ request asked failure, ¬(serve request).Ends asked (.error failure)) {program : Program Reply ε α}
    {history : List (Exchange Reply')} {result : Except ε α} (ended : (program.interpret serve).Ends history result) :
    ∃ before, program.Ends before result ∧ Renders serve before history := by
  induction program generalizing history with
  | done settled =>
    obtain ⟨rfl, rfl⟩ := ends_done.mp ended
    exact ⟨[], .done _, .nil⟩
  | ask request next ih =>
    rcases ends_bind.mp ended with ⟨failure, -, failed⟩ | ⟨reply, asked, rest, rfl, served, later⟩
    · exact (serves request _ failure failed).elim
    · obtain ⟨before, alone, rendered⟩ := ih reply later
      exact ⟨_, .ask alone, .cons served rendered⟩

theorem renders_append {ρ' : Type} {Reply' : ρ' → Type} {serve : (r : ρ) → Program Reply' ε (Reply r)}
    {first rest : List (Exchange Reply)} {history : List (Exchange Reply')}
    (rendered : Renders serve (first ++ rest) history) :
    ∃ before after, history = before ++ after ∧ Renders serve first before ∧ Renders serve rest after := by
  induction first generalizing history with
  | nil => exact ⟨[], history, rfl, .nil, rendered⟩
  | cons exchange first ih =>
    cases rendered with
    | cons served others =>
      obtain ⟨before, after, rfl, earlier, later⟩ := ih others
      exact ⟨_, after, (List.append_assoc ..).symm, .cons served earlier, later⟩

def history (answer : (r : ρ) → σ → Reply r × σ) : Program Reply ε α → σ → List (Exchange Reply)
  | .done _, _ => []
  | .ask request next, state =>
    let (reply, state) := answer request state
    ⟨request, reply⟩ :: (next reply).history answer state

theorem ends_history (answer : (r : ρ) → σ → Reply r × σ) (program : Program Reply ε α) (state : σ) :
    program.Ends (program.history answer state) (program.run answer state).1 := by
  induction program generalizing state with
  | done result => exact .done _
  | ask request next ih => exact .ask (ih _ _)

/-- What is asked in a run in surroundings that may break it off, and what comes of each request. -/
def transcript {χ : Type} (answer : (r : ρ) → σ → Except χ (Reply r) × σ) :
    Program Reply ε α → σ → List (Exchange fun r => Except χ (Reply r))
  | .done _, _ => []
  | .ask request next, state =>
    ⟨request, (answer request state).1⟩ ::
      match answer request state with
      | (.ok reply, state) => (next reply).transcript answer state
      | (.error _, _) => []

/-- Surroundings give the replies of a history one after another. -/
inductive Answers (answer : (r : ρ) → σ → Reply r × σ) : σ → List (Exchange Reply) → σ → Prop where
  | nil (state) : Answers answer state [] state
  | cons {request state history last} (rest : Answers answer (answer request state).2 history last) :
      Answers answer state (⟨request, (answer request state).1⟩ :: history) last

theorem history_andThen (answer : (r : ρ) → σ → Reply r × σ) (program : Program Reply ε α)
    (next : Except ε α → Program Reply ε' β) (state : σ) :
    (program.andThen next).history answer state = program.history answer state ++
      (next (program.run answer state).1).history answer (program.run answer state).2 := by
  induction program generalizing state with
  | done result => rfl
  | ask request rest ih => simp only [andThen, history, run, ih, List.cons_append]

theorem answers_history (answer : (r : ρ) → σ → Reply r × σ) (program : Program Reply ε α) (state : σ) :
    Answers answer state (program.history answer state) (program.run answer state).2 := by
  induction program generalizing state with
  | done result => exact .nil _
  | ask request next ih => exact .cons (ih _ _)

/-- Every reply of a history was given in some state. -/
theorem replied_history (answer : (r : ρ) → σ → Reply r × σ) (program : Program Reply ε α) (state : σ) :
    ∀ exchange ∈ program.history answer state, ∃ state, exchange.reply = (answer exchange.request state).1 := by
  induction program generalizing state with
  | done result => exact List.forall_mem_nil _
  | ask request next ih => exact List.forall_mem_cons.mpr ⟨⟨state, rfl⟩, ih _ _⟩

variable {answer : (r : ρ) → σ → Reply r × σ}

@[simp]
theorem answers_nil {state last : σ} : Answers answer state [] last ↔ last = state := by
  constructor
  · rintro ⟨⟩
    rfl
  · rintro rfl
    exact .nil _

theorem answers_cons {state last : σ} {request : ρ} {reply : Reply request} {rest : List (Exchange Reply)} :
    Answers answer state (⟨request, reply⟩ :: rest) last ↔
      reply = (answer request state).1 ∧ Answers answer (answer request state).2 rest last := by
  constructor
  · rintro ⟨⟩
    exact ⟨rfl, ‹_›⟩
  · rintro ⟨rfl, answered⟩
    exact .cons answered

theorem answers_append {state last : σ} {first rest : List (Exchange Reply)} :
    Answers answer state (first ++ rest) last ↔
      ∃ middle, Answers answer state first middle ∧ Answers answer middle rest last := by
  induction first generalizing state with
  | nil => simp
  | cons exchange first ih =>
    obtain ⟨request, reply⟩ := exchange
    simp only [List.cons_append, answers_cons, ih]
    constructor
    · rintro ⟨same, middle, before, after⟩
      exact ⟨middle, ⟨same, before⟩, after⟩
    · rintro ⟨middle, ⟨same, before⟩, after⟩
      exact ⟨same, middle, before, after⟩

theorem Answers.unique {state first second : σ} {history : List (Exchange Reply)}
    (one : Answers answer state history first) (other : Answers answer state history second) : first = second := by
  induction one with
  | nil => exact (answers_nil.mp other).symm
  | cons _ ih => exact ih (answers_cons.mp other).2

theorem Answers.keeps {property : σ → Prop} {state last : σ} {history : List (Exchange Reply)}
    (answered : Answers answer state history last)
    (kept : ∀ exchange ∈ history, ∀ state, property state → property (answer exchange.request state).2)
    (holds : property state) : property last := by
  induction answered with
  | nil => exact holds
  | cons _ ih =>
    apply ih (fun exchange member => kept exchange (List.mem_cons_of_mem _ member))
    exact kept _ List.mem_cons_self _ holds

/-- What every allowed exchange keeps, a history keeps, and each of its exchanges is as good as its moment makes
it. -/
theorem Answers.along {property : σ → Prop} {allowed : ρ → Prop} {good : Exchange Reply → Prop} {state last : σ}
    {history : List (Exchange Reply)} (answered : Answers answer state history last)
    (asked : ∀ exchange ∈ history, allowed exchange.request)
    (step : ∀ request state, allowed request → property state →
      good ⟨request, (answer request state).1⟩ ∧ property (answer request state).2)
    (holds : property state) : (∀ exchange ∈ history, good exchange) ∧ property last := by
  induction answered with
  | nil => exact ⟨by simp, holds⟩
  | @cons request state history last rest ih =>
    obtain ⟨first, others⟩ := List.forall_mem_cons.mp asked
    obtain ⟨well, kept⟩ := step request state first holds
    obtain ⟨all, ends⟩ := ih others kept
    exact ⟨List.forall_mem_cons.mpr ⟨well, all⟩, ends⟩

end Program

end ElasticEndpoint
