import ElasticEndpoint.Proofs.History

/-!
Programs in one surrounding. Each turn answers the next request of one of them, in any order, and turns are
kept with whose they were.
-/

namespace ElasticEndpoint.Program

variable {ρ σ : Type} {Reply : ρ → Type} {ε α : Type}

/-- Programs as far as they have come, the state they share, and the turns taken so far. -/
structure Interleaving (Reply : ρ → Type) (ε α σ : Type) where
  state : σ
  members : List (Program Reply ε α)
  turns : List (Nat × Exchange Reply) := []

namespace Interleaving

variable (answer : (r : ρ) → σ → Reply r × σ)

/-- A turn of one member. One that is done, or not there, lets it pass. -/
def turn (together : Interleaving Reply ε α σ) (index : Nat) : Interleaving Reply ε α σ :=
  match together.members[index]? with
  | some (.ask request next) =>
    let (reply, state) := answer request together.state
    ⟨state, together.members.set index (next reply), together.turns ++ [(index, ⟨request, reply⟩)]⟩
  | _ => together

/-- Turns in the order of a schedule. -/
def play (together : Interleaving Reply ε α σ) (schedule : List Nat) : Interleaving Reply ε α σ :=
  schedule.foldl (turn answer) together

/-- The exchanges of one member. -/
def own (turns : List (Nat × Exchange Reply)) (index : Nat) : List (Exchange Reply) :=
  turns.filterMap fun taken => if taken.1 = index then some taken.2 else none

@[simp]
theorem own_append_self (turns : List (Nat × Exchange Reply)) (index : Nat) (exchange : Exchange Reply) :
    own (turns ++ [(index, exchange)]) index = own turns index ++ [exchange] := by
  simp [own]

theorem own_append_other (turns : List (Nat × Exchange Reply)) {index other : Nat} (apart : other ≠ index)
    (exchange : Exchange Reply) : own (turns ++ [(other, exchange)]) index = own turns index := by
  simp [own, apart]

/-- A turn among those taken is the last one, or was among those before it. -/
theorem taken_last {τ : Type} {turns past rest : List τ} {last taken : τ}
    (split : turns ++ [last] = past ++ taken :: rest) :
    (past = turns ∧ taken = last) ∨ ∃ between, turns = past ++ taken :: between := by
  rcases List.eq_nil_or_concat rest with rfl | ⟨between, final, rfl⟩
  · obtain ⟨rfl, same⟩ := List.append_inj' split rfl
    cases same
    exact .inl ⟨rfl, rfl⟩
  · rw [List.concat_eq_append, ← List.cons_append, ← List.append_assoc] at split
    exact .inr ⟨between, (List.append_inj' split rfl).1⟩

variable {together : Interleaving Reply ε α σ} {index : Nat}

/-- A turn is an exchange of the member whose it is, or changes nothing. -/
theorem turn_cases (together : Interleaving Reply ε α σ) (index : Nat) :
    together.turn answer index = together ∨
      ∃ request next, together.members[index]? = some (.ask request next) ∧
        together.turn answer index = ⟨(answer request together.state).2,
          together.members.set index (next (answer request together.state).1),
          together.turns ++ [(index, ⟨request, (answer request together.state).1⟩)]⟩ := by
  unfold turn
  split
  · exact .inr ⟨_, _, ‹_›, rfl⟩
  · exact .inl rfl

theorem play_keeps (property : Interleaving Reply ε α σ → Prop)
    (kept : ∀ together index, property together → property (together.turn answer index))
    (holds : property together) (schedule : List Nat) : property (together.play answer schedule) := by
  induction schedule generalizing together with
  | nil => exact holds
  | cons index schedule ih => exact ih (kept together index holds)

theorem ends_alone {program : Program Reply ε α} (there : together.members[index]? = some program) :
    ∃ count result, (together.play answer (List.replicate count index)).members[index]? = some (.done result) := by
  induction program generalizing together with
  | done result => exact ⟨0, result, there⟩
  | ask request next ih =>
    have inside : index < together.members.length := (List.getElem?_eq_some_iff.mp there).1
    have after : (together.turn answer index).members[index]? = some (next (answer request together.state).1) := by
      unfold turn
      rw [there]
      exact List.getElem?_set_self inside
    obtain ⟨count, result, ended⟩ := ih _ after
    exact ⟨count + 1, result, ended⟩

private theorem turn_other {other : Nat} (apart : other ≠ index) :
    (together.turn answer other).members[index]? = together.members[index]? := by
  rcases turn_cases answer together other with same | ⟨request, next, -, turned⟩
  · rw [same]
  · rw [turned]
    exact List.getElem?_set_ne apart

/-- A program that is given turns again and again ends, whatever the others do in between. -/
theorem ends_fairly {program : Program Reply ε α} (there : together.members[index]? = some program)
    (turns : Nat → Nat) (fair : ∀ count, ∃ later, count ≤ later ∧ turns later = index) :
    ∃ count result, (together.play answer ((List.range count).map turns)).members[index]? = some (.done result) := by
  have next {turns : Nat → Nat} (fair : ∀ count, ∃ later, count ≤ later ∧ turns later = index) (count : Nat) :
      ∃ later, count ≤ later ∧ turns (later + 1) = index := by
    obtain ⟨later, after, taken⟩ := fair (count + 1)
    exact ⟨later - 1, by omega, by rw [Nat.sub_add_cancel (by omega)]; exact taken⟩
  have first {together : Interleaving Reply ε α σ} {turns : Nat → Nat} (count : Nat) :
      together.play answer ((List.range (count + 1)).map turns) =
        (together.turn answer (turns 0)).play answer ((List.range count).map fun turn => turns (turn + 1)) := by
    rw [List.range_succ_eq_map, List.map_cons, List.map_map]
    rfl
  induction program generalizing together turns with
  | done result => exact ⟨0, result, there⟩
  | ask request rest ih =>
    have granted {together : Interleaving Reply ε α σ} {turns : Nat → Nat}
        (there : together.members[index]? = some (.ask request rest))
        (fair : ∀ count, ∃ later, count ≤ later ∧ turns later = index) (own : turns 0 = index) :
        ∃ count result,
          (together.play answer ((List.range count).map turns)).members[index]? = some (.done result) := by
      have inside : index < together.members.length := (List.getElem?_eq_some_iff.mp there).1
      have after : (together.turn answer (turns 0)).members[index]? = some (rest (answer request together.state).1) := by
        unfold turn
        rw [own, there]
        exact List.getElem?_set_self inside
      obtain ⟨count, result, ended⟩ := ih _ after _ (next fair)
      exact ⟨count + 1, result, by rw [first]; exact ended⟩
    -- Up to the turn that the program gets next, turns of others leave it as it is.
    obtain ⟨later, -, taken⟩ := fair 0
    induction later generalizing together turns with
    | zero => exact granted there fair taken
    | succ later waits =>
      by_cases own : turns 0 = index
      · exact granted there fair own
      · obtain ⟨count, result, ended⟩ := waits ((turn_other answer own).trans there) _ (next fair) taken
        exact ⟨count + 1, result, by rw [first]; exact ended⟩

end Interleaving

end ElasticEndpoint.Program
