import ElasticEndpoint.Yaml.Writer

/-!
Runs of a text. The runs that a text is cut into before it is written make up the text again, none of them is empty,
and where no space stands beside a line break no two runs of blanks follow one another.
-/

namespace ElasticEndpoint.Yaml

namespace Run

/-- The characters of a run. -/
def text : Run → List Char
  | .spaces count => List.replicate count ' '
  | .breaks text => text
  | .solid text => text

/-- At the end, or before characters that are no blanks. -/
def BeforeSolid (runs : List Run) : Prop := ∀ run ∈ runs.head?, ∃ text, run = .solid text

/-- At the end, or before blanks. -/
def BeforeBlank (runs : List Run) : Prop := ∀ run ∈ runs.head?, ∀ text, run ≠ .solid text

/-- Runs of which none is empty, with characters that are no blanks between any two of blanks. -/
inductive Regular : List Run → Prop
  | nil : Regular []
  | solid {text : List Char} {rest : List Run} (some : text ≠ []) (solid : ∀ c ∈ text, c ≠ ' ' ∧ isBreak c = false)
      (next : BeforeBlank rest) (more : Regular rest) : Regular (.solid text :: rest)
  | spaces {count : Nat} {rest : List Run} (some : 0 < count) (next : BeforeSolid rest) (more : Regular rest) :
      Regular (.spaces count :: rest)
  | breaks {text : List Char} {rest : List Run} (some : text ≠ []) (breaks : ∀ c ∈ text, isBreak c = true)
      (next : BeforeSolid rest) (more : Regular rest) : Regular (.breaks text :: rest)

theorem text_cons (c : Char) (runs : List Run) : (cons c runs).flatMap text = c :: runs.flatMap text := by
  unfold cons
  split
  next space =>
    obtain rfl := beq_iff_eq.mp space
    split
    · simp [text, List.replicate_succ]
    · simp [text]
  next =>
    split
    · split <;> simp [text]
    · split <;> simp [text]

theorem text_ofText (chars : List Char) : (ofText chars).flatMap text = chars := by
  induction chars with
  | nil => rfl
  | cons c rest ih => exact (text_cons c (ofText rest)).trans (congrArg (c :: ·) ih)

/-- The first run of a text is of the class of its first character. -/
theorem cons_spaces (runs : List Run) : ∃ count rest, cons ' ' runs = .spaces count :: rest := by
  unfold cons
  simp only [beq_self_eq_true, if_true]
  split <;> exact ⟨_, _, rfl⟩

private theorem cons_breaks {c : Char} (space : c ≠ ' ') (break_ : isBreak c = true) (runs : List Run) :
    ∃ text rest, cons c runs = .breaks text :: rest := by
  unfold cons
  simp only [beq_iff_eq, space, break_, if_false, if_true]
  split <;> exact ⟨_, _, rfl⟩

theorem cons_solid {c : Char} (space : c ≠ ' ') (unbroken : isBreak c = false) (runs : List Run) :
    ∃ text rest, cons c runs = .solid text :: rest := by
  unfold cons
  simp only [beq_iff_eq, space, unbroken, if_false, Bool.false_eq_true]
  split <;> exact ⟨_, _, rfl⟩

theorem hasNeighbours_cons {first second : Char → Bool} {c : Char} {rest : List Char}
    (none : hasNeighbours first second (c :: rest) = false) :
    (first c = true → ∀ d ∈ rest.head?, second d = false) ∧ hasNeighbours first second rest = false := by
  cases rest with
  | nil => simp [hasNeighbours]
  | cons d more =>
    simp only [hasNeighbours, Bool.or_eq_false_iff, Bool.and_eq_false_iff] at none
    refine ⟨?_, none.2⟩
    rintro holds _ ⟨⟩
    simpa [holds] using none.1

private theorem regular_cons_solid {c : Char} (space : c ≠ ' ') (unbroken : isBreak c = false) {runs : List Run}
    (regular : Regular runs) : Regular (cons c runs) := by
  have single (next : BeforeBlank runs) : Regular (.solid [c] :: runs) := .solid (by simp) (by simp [space, unbroken]) next regular
  unfold cons
  simp only [beq_iff_eq, space, unbroken, if_false, Bool.false_eq_true]
  cases regular with
  | nil => exact single (by simp [BeforeBlank])
  | solid some solid next more => exact .solid (by simp) (by simpa [space, unbroken] using solid) next more
  | spaces => exact single (by rintro _ ⟨⟩ text ⟨⟩)
  | breaks => exact single (by rintro _ ⟨⟩ text ⟨⟩)

private theorem regular_cons_space {runs : List Run} (apart : ∀ text, runs.head? ≠ some (.breaks text)) (regular : Regular runs) :
    Regular (cons ' ' runs) := by
  cases regular with
  | nil => exact .spaces (by decide) (by simp [BeforeSolid]) .nil
  | solid some solid next more => exact .spaces (by decide) (by rintro _ ⟨⟩; exact ⟨_, rfl⟩) (.solid some solid next more)
  | spaces some next more => exact .spaces (by omega) next more
  | breaks => exact absurd rfl (apart _)

private theorem regular_cons_break {c : Char} (space : c ≠ ' ') (break_ : isBreak c = true) {runs : List Run}
    (apart : ∀ count, runs.head? ≠ some (.spaces count)) (regular : Regular runs) : Regular (cons c runs) := by
  unfold cons
  simp only [beq_iff_eq, space, break_, if_false, if_true]
  cases regular with
  | nil => exact .breaks (by simp) (by simp [break_]) (by simp [BeforeSolid]) .nil
  | solid some solid next more =>
    exact .breaks (by simp) (by simp [break_]) (by rintro _ ⟨⟩; exact ⟨_, rfl⟩) (.solid some solid next more)
  | spaces => exact absurd rfl (apart _)
  | breaks some breaks next more => exact .breaks (by simp) (by simpa [break_] using breaks) next more

/-- A text in which no space stands beside a line break has regular runs. -/
theorem regular_ofText {chars : List Char} (breakSpace : hasNeighbours isBreak (· == ' ') chars = false)
    (spaceBreak : hasNeighbours (· == ' ') isBreak chars = false) : Regular (ofText chars) := by
  induction chars with
  | nil => exact .nil
  | cons c rest ih =>
    obtain ⟨noSpace, breakSpace⟩ := hasNeighbours_cons breakSpace
    obtain ⟨noBreak, spaceBreak⟩ := hasNeighbours_cons spaceBreak
    have regular := ih breakSpace spaceBreak
    change Regular (cons c (ofText rest))
    by_cases space : c = ' '
    · subst space
      apply regular_cons_space _ regular
      intro text first
      cases rest with
      | nil => cases first
      | cons d more =>
        have unbroken := noBreak rfl d rfl
        change (cons d (ofText more)).head? = _ at first
        by_cases gap : d = ' '
        · obtain ⟨count, runs, shape⟩ := cons_spaces (ofText more)
          rw [gap, shape] at first
          cases first
        · obtain ⟨text, runs, shape⟩ := cons_solid gap unbroken (ofText more)
          rw [shape] at first
          cases first
    · cases break_ : isBreak c with
      | false => exact regular_cons_solid space break_ regular
      | true =>
        apply regular_cons_break space break_ _ regular
        intro count first
        cases rest with
        | nil => cases first
        | cons d more =>
          have gap : d ≠ ' ' := by simpa using noSpace break_ d rfl
          change (cons d (ofText more)).head? = _ at first
          cases broken : isBreak d with
          | true =>
            obtain ⟨text, runs, shape⟩ := cons_breaks gap broken (ofText more)
            rw [shape] at first
            cases first
          | false =>
            obtain ⟨text, runs, shape⟩ := cons_solid gap broken (ofText more)
            rw [shape] at first
            cases first

end Run

end ElasticEndpoint.Yaml
