import ElasticEndpoint.Yaml.Scalar.Plain
import ElasticEndpoint.Proofs.QuotedScalars

/-!
Plain scalars read back as they are written. A text that fits without quotation marks is words with spaces between them.
Word by word it is read up to the end of its last line, where the next line is indented less.
-/

namespace ElasticEndpoint.Yaml

/-- A word of a plain scalar: characters that are no blanks, without a comment sign at its beginning or a colon at its
end. -/
structure IsWord (word : List Char) : Prop where
  some : word ≠ []
  solid : ∀ c ∈ word, endsToken (.some c) = false
  start : word.head? ≠ .some '#'
  stop : word.getLast? ≠ .some ':'

/-- Runs of a plain text: words with spaces between them. -/
inductive Words : List Run → Prop
  | last {word : List Char} (isWord : IsWord word) : Words [.solid word]
  | more {word : List Char} {count : Nat} {rest : List Run} (isWord : IsWord word) (some : 0 < count) (others : Words rest) :
      Words (.solid word :: .spaces count :: rest)

/-- Whether no colon stands before a blank or the end, and no comment sign behind a space or at the beginning. -/
def isClean (afterSpace : Bool) : List Char → Bool
  | [] => true
  | c :: rest => !(c == ':' && blankOrEnd rest.head?) && !(c == '#' && afterSpace) && isClean (c == ' ') rest

section

variable {text : List Char}

private theorem isClean_of_holdsIndicator {c : Char} {rest : List Char} (none : holdsIndicator (c :: rest) = false) :
    isClean (c == ' ') rest = true := by
  induction rest generalizing c with
  | nil => rfl
  | cons d rest ih =>
    simp only [holdsIndicator, Bool.or_eq_false_iff] at none
    obtain ⟨⟨colon, comment⟩, others⟩ := none
    have space : (d == '#' && c == ' ') = false := by
      cases blank : c == ' ' with
      | false => simp
      | true => simpa [blankOrEnd, blank] using comment
    simp only [isClean, colon, space, ih others, Bool.not_false, Bool.and_self]

private theorem isClean_of_fits (fits : fitsPlain text = true) : isClean true text = true := by
  cases text with
  | nil => rfl
  | cons c rest =>
    simp only [fitsPlain, startsMarked, Bool.and_eq_true, Bool.not_eq_true', Bool.or_eq_false_iff] at fits
    obtain ⟨-, ⟨-, holds⟩, starts⟩ := fits
    have colon : (c == ':' && blankOrEnd rest.head?) = false := by
      simp only [startsIndicator, Bool.or_eq_false_iff, Bool.and_eq_false_iff] at starts
      obtain isColon | other := Bool.eq_false_or_eq_true (c == ':')
      · obtain rfl := beq_iff_eq.mp isColon
        simpa using starts.2
      · simp [other]
    have comment : (c == '#') = false := by
      cases sign : c == '#' with
      | false => rfl
      | true =>
        obtain rfl := beq_iff_eq.mp sign
        simp [startsIndicator] at starts
    simp only [isClean, colon, comment, isClean_of_holdsIndicator holds, Bool.false_and, Bool.not_false, Bool.and_self]

/-- A piece of a clean text before a blank or the end has no colon at its end. -/
theorem isClean_append {word rest : List Char} {afterSpace : Bool} (some : word ≠ []) (clean : isClean afterSpace (word ++ rest) = true)
    (next : blankOrEnd rest.head? = true) :
    (afterSpace = true → word.head? ≠ .some '#') ∧ word.getLast? ≠ .some ':' ∧
      ∃ last, word.getLast? = .some last ∧ isClean (last == ' ') rest = true := by
  induction word generalizing afterSpace with
  | nil => exact absurd rfl some
  | cons c word ih =>
    simp only [List.cons_append, isClean, Bool.and_eq_true, Bool.not_eq_true'] at clean
    obtain ⟨⟨colon, comment⟩, others⟩ := clean
    have start : afterSpace = true → (c :: word).head? ≠ .some '#' := by
      rintro rfl same
      cases same
      cases comment
    cases word with
    | nil =>
      refine ⟨start, ?_, c, rfl, others⟩
      rintro ⟨⟩
      rw [List.nil_append, next] at colon
      cases colon
    | cons d word =>
      obtain ⟨-, stop, last, isLast, more⟩ := ih (by simp) others
      rw [List.getLast?_cons_cons]
      exact ⟨start, stop, last, isLast, more⟩

private theorem isClean_spaces {rest : List Char} {afterSpace : Bool} {count : Nat} (some : 0 < count)
    (clean : isClean afterSpace (List.replicate count ' ' ++ rest) = true) : isClean true rest = true := by
  induction count generalizing afterSpace with
  | zero => omega
  | succ count ih =>
    rw [List.replicate_succ, List.cons_append] at clean
    simp only [isClean, Bool.and_eq_true] at clean
    obtain rfl | more := Nat.eq_zero_or_pos count
    · exact clean.2
    · exact ih more clean.2

private theorem isWord_of_clean {word rest : List Char} (some : word ≠ []) (solid : ∀ c ∈ word, c ≠ ' ' ∧ isBreak c = false)
    (ordinary : ∀ c ∈ word, isOrdinary c = true) (clean : isClean true (word ++ rest) = true)
    (next : blankOrEnd rest.head? = true) : IsWord word ∧ ∃ afterSpace, isClean afterSpace rest = true := by
  obtain ⟨start, stop, last, -, clean⟩ := isClean_append some clean next
  refine ⟨⟨some, ?_, start rfl, stop⟩, _, clean⟩
  intro c mem
  obtain ⟨space, unbroken⟩ := solid c mem
  exact ordinary_solid (ordinary c mem) space unbroken

private theorem words_of_regular {runs : List Run} (regular : Run.Regular runs) (ordinary : Ordinary runs)
    (unbroken : ∀ run ∈ runs, ∀ c ∈ run.text, isBreak c = false) (some : runs ≠ []) (begins : Run.BeforeSolid runs)
    (clean : isClean true (runs.flatMap Run.text) = true) (ends : (runs.flatMap Run.text).getLast? ≠ .some ' ') :
    Words runs := by
  match runs, regular with
  | [], _ => exact absurd rfl some
  | .spaces _ :: _, _ => obtain ⟨_, same⟩ := begins _ rfl; cases same
  | .breaks _ :: _, _ => obtain ⟨_, same⟩ := begins _ rfl; cases same
  | .solid _ :: .solid _ :: _, .solid _ _ next _ => exact absurd rfl (next _ rfl _)
  | .solid _ :: .breaks text :: _, .solid _ _ _ (.breaks present breaks _ _) =>
    obtain ⟨c, rest, rfl⟩ := List.exists_cons_of_ne_nil present
    have broken := breaks c List.mem_cons_self
    rw [unbroken (.breaks (c :: rest)) (by simp) c List.mem_cons_self] at broken
    cases broken
  | [.solid word], .solid written solid _ _ =>
    exact .last (isWord_of_clean written solid (ordinary _ List.mem_cons_self) clean rfl).1
  | .solid word :: .spaces count :: others, .solid written solid _ (.spaces present following more) =>
    simp only [List.flatMap_cons] at clean ends
    obtain ⟨isWord, _, clean⟩ := isWord_of_clean written solid (ordinary _ List.mem_cons_self) clean (by
      obtain ⟨count, rfl⟩ : ∃ n, count = n + 1 := ⟨count - 1, by omega⟩
      rfl)
    refine .more isWord present (words_of_regular more (fun run mem => ordinary run (by simp [mem]))
      (fun run mem => unbroken run (by simp [mem])) ?_ following (isClean_spaces present clean) ?_)
    · rintro rfl
      obtain ⟨count, rfl⟩ : ∃ n, count = n + 1 := ⟨count - 1, by omega⟩
      simp [Run.text, List.getLast?_append, List.getLast?_replicate] at ends
    · intro last
      apply ends
      rw [List.getLast?_append, List.getLast?_append, last]
      rfl
termination_by runs.length

/-- A text that fits without quotation marks is words with spaces between them. -/
theorem words_ofText (fits : fitsPlain text = true) : Words (Run.ofText text) := by
  have clean := isClean_of_fits fits
  simp only [fitsPlain, Bool.and_eq_true, Bool.not_eq_true', Bool.not_not, List.any_cons, List.any_nil,
    Bool.or_false, Bool.or_eq_false_iff] at fits
  obtain ⟨⟨⟨⟨⟨⟨⟨-, present⟩, front, back⟩, breakSpace⟩, spaceBreak⟩, ordinary⟩, unbroken⟩, -⟩ := fits
  have some : text ≠ [] := by simpa using present
  have regular := Run.regular_ofText breakSpace spaceBreak
  refine words_of_regular regular (ordinary_ofText ordinary) ?_ ?_ ?_ ?_ ?_
  · intro run mem c inside
    have whole : c ∈ (Run.ofText text).flatMap Run.text := List.mem_flatMap.mpr ⟨run, mem, inside⟩
    rw [Run.text_ofText] at whole
    simpa using List.any_eq_false.mp unbroken c whole
  · intro empty
    have whole := Run.text_ofText text
    rw [empty] at whole
    exact some whole.symm
  · obtain ⟨c, rest, rfl⟩ := List.exists_cons_of_ne_nil some
    simp only [List.head?_cons, Option.any_some, Bool.or_eq_false_iff] at front
    obtain ⟨word, runs, shape⟩ := Run.cons_solid (by simpa using front.1) front.2 (Run.ofText rest)
    change Run.BeforeSolid (Run.cons c (Run.ofText rest))
    rw [shape]
    rintro _ ⟨⟩
    exact ⟨word, rfl⟩
  · rw [Run.text_ofText]
    exact clean
  · rw [Run.text_ofText]
    intro last
    simp [last] at back

end

section

variable {word rest behind : List Char} {c : Char} (place : Place)

theorem plainWord_append (solid : ∀ c ∈ word, endsToken (some c) = false) (stop : word.getLast? ≠ some ':')
    (ends : endsPlain false c rest.head? = true) : plainWord false (word ++ c :: rest) = word := by
  induction word with
  | nil =>
    rw [List.nil_append, plainWord, if_pos ends]
  | cons d word ih =>
    have token := solid d List.mem_cons_self
    have goesOn : endsPlain false d (word ++ c :: rest).head? = false := by
      cases word with
      | nil =>
        have colon : (d == ':') = false := by simpa using stop
        simp [endsPlain, token, colon]
      | cons e word => simp [endsPlain, token, solid e (by simp)]
    have shorter : plainWord false (word ++ c :: rest) = word := by
      cases word with
      | nil => rw [List.nil_append, plainWord, if_pos ends]
      | cons e word => exact ih (fun c mem => solid c (List.mem_cons_of_mem d mem)) (by rwa [List.getLast?_cons_cons] at stop)
    rw [List.cons_append, plainWord, goesOn, if_neg Bool.false_ne_true, shorter]

/-- A word is read up to where it ends, and what separates it from the next decides whether the scalar goes on. -/
theorem plainFrom_word (isWord : IsWord word) (ends : endsPlain false c rest.head? = true) (indent : Int) (fuel : Nat)
    (separator : List Char) (stop : Place) (crossed : Bool) {spaces : List Char} {after : Cursor} {line : Bool}
    (separated : plainSpaces ⟨c :: rest, word.foldl Place.after place⟩ = (spaces, after, line)) :
    plainFrom false indent (fuel + 1) separator stop crossed ⟨word ++ c :: rest, place⟩ =
      if spaces.isEmpty || after.peek == some '#' || (!false && after.place.column < indent) then
        ⟨separator ++ word, word.foldl Place.after place, after, line⟩
      else
        let more := plainFrom false indent fuel spaces (word.foldl Place.after place) line after
        { more with chars := separator ++ word ++ more.chars } := by
  have comment : (Cursor.peek ⟨word ++ c :: rest, place⟩ == some '#') = false := by
    apply beq_false_of_ne
    obtain ⟨d, word, rfl⟩ := List.exists_cons_of_ne_nil isWord.some
    exact isWord.start
  have written : word.isEmpty = false := by simpa using isWord.some
  have skip : Cursor.skip ⟨word ++ c :: rest, place⟩ word.length = ⟨c :: rest, word.foldl Place.after place⟩ :=
    Cursor.skip_append word (c :: rest) place
  rw [plainFrom]
  simp only [comment, Bool.false_eq_true, if_false, plainWord_append isWord.solid isWord.stop ends, written, skip, separated]

/-- The text of the next line begins at once, and with no marker of a document. -/
structure NextLine (behind : List Char) : Prop where
  solid : ∀ c ∈ behind.head?, endsToken (some c) = false
  unmarked : ∀ place, Cursor.atDocumentMarker ⟨behind, place⟩ = false

private theorem plainSpaces_end (next : NextLine behind) :
    plainSpaces ⟨'\n' :: behind, place⟩ = ([' '], ⟨behind, place.after '\n'⟩, true) := by
  have line : Cursor.span ⟨'\n' :: behind, place⟩ (· == ' ') = ([], ⟨'\n' :: behind, place⟩) ∧
      Cursor.lineBreak ⟨'\n' :: behind, place⟩ = (['\n'], ⟨behind, place.after '\n'⟩) := ⟨rfl, rfl⟩
  have breaks : plainBreaks behind.length ⟨behind, place.after '\n'⟩ = (some [], ⟨behind, place.after '\n'⟩) := by
    cases behind with
    | nil => rfl
    | cons c rest =>
      have token := next.solid c rfl
      simp only [endsToken, Bool.or_eq_false_iff] at token
      rw [List.length_cons, plainBreaks]
      have space : (Cursor.peek ⟨c :: rest, place.after '\n'⟩ == some ' ') = false := token.1.2
      have unbroken : (Cursor.peek ⟨c :: rest, place.after '\n'⟩).any isBreak = false := token.1.1
      rw [space, unbroken]
      rfl
  unfold plainSpaces
  simp only [line, next.unmarked, breaks]
  rfl

/-- The place behind a number of spaces. -/
theorem column_spaces (count : Nat) :
    ((List.replicate count ' ').foldl Place.after place).column = place.column + count := by
  induction count generalizing place with
  | zero => rfl
  | succ count ih =>
    rw [List.replicate_succ, List.foldl_cons, ih]
    change place.column + 1 + count = _
    omega

private theorem plainSpaces_inside (solid : endsToken (some c) = false) (count : Nat) :
    plainSpaces ⟨List.replicate count ' ' ++ c :: rest, place⟩ =
      (List.replicate count ' ', ⟨c :: rest, (List.replicate count ' ').foldl Place.after place⟩, false) := by
  simp only [endsToken, Bool.or_eq_false_iff] at solid
  have run : Cursor.span ⟨List.replicate count ' ' ++ c :: rest, place⟩ (· == ' ') =
      (List.replicate count ' ', ⟨c :: rest, (List.replicate count ' ').foldl Place.after place⟩) := by
    apply Cursor.span_append
    · intro d mem
      simp [List.eq_of_mem_replicate mem]
    · rintro d ⟨⟩
      exact solid.1.2
  unfold plainSpaces
  rw [run]
  simp only [Cursor.peek, List.head?_cons, Option.any_some, solid, Bool.false_eq_true, if_false]

private theorem plainSpaces_fold (solid : endsToken (some c) = false) :
    plainSpaces ⟨'\n' :: foldIndent ++ c :: rest, place⟩ =
      ([' '], ⟨c :: rest, foldIndent.foldl Place.after (place.after '\n')⟩, true) := by
  simp only [endsToken, Bool.or_eq_false_iff] at solid
  have line : Cursor.span ⟨'\n' :: foldIndent ++ c :: rest, place⟩ (· == ' ') = ([], ⟨'\n' :: foldIndent ++ c :: rest, place⟩) ∧
      Cursor.lineBreak ⟨'\n' :: foldIndent ++ c :: rest, place⟩ = (['\n'], ⟨foldIndent ++ c :: rest, place.after '\n'⟩) ∧
      Cursor.atDocumentMarker ⟨foldIndent ++ c :: rest, place.after '\n'⟩ = false := ⟨rfl, rfl, rfl⟩
  have breaks : plainBreaks (rest.length + 3) ⟨foldIndent ++ c :: rest, place.after '\n'⟩ =
      (some [], ⟨c :: rest, foldIndent.foldl Place.after (place.after '\n')⟩) := by
    change plainBreaks (rest.length + 1) ⟨c :: rest, foldIndent.foldl Place.after (place.after '\n')⟩ = _
    rw [plainBreaks]
    have space : (Cursor.peek ⟨c :: rest, foldIndent.foldl Place.after (place.after '\n')⟩ == some ' ') = false := solid.1.2
    have unbroken : (Cursor.peek ⟨c :: rest, foldIndent.foldl Place.after (place.after '\n')⟩).any isBreak = false := solid.1.1
    rw [space, unbroken]
    rfl
  have length : (foldIndent ++ c :: rest).length = rest.length + 3 := by simp [foldIndent]
  unfold plainSpaces
  simp only [line, length, breaks]
  rfl

/-- Spaces between two words as they are written: themselves, or a fold of the line in place of one. -/
inductive Separates : Nat → List Char → Prop
  | spaces (count : Nat) : Separates count (List.replicate count ' ')
  | fold : Separates 1 ('\n' :: foldIndent)

private theorem writeRuns_spaces (first : Bool) (column count : Nat) (runs : List Run) : ∃ separator column',
    writeRuns id first column (.spaces count :: runs) = separator ++ writeRuns id false column' runs ∧ Separates count separator := by
  rw [writeRuns]
  split
  next fold =>
    obtain rfl : count = 1 := by simp_all
    exact ⟨_, 2, rfl, .fold⟩
  next => exact ⟨_, column + count, rfl, .spaces count⟩

/-- Either way the next word is found behind the spaces, and not at the beginning of a line. -/
theorem Separates.read {count : Nat} {separator : List Char} (separates : Separates count separator) (several : 0 < count)
    (solid : endsToken (some c) = false) (rest : List Char) : ∃ blank blanks last line, separator = blank :: blanks ∧
      endsToken (some blank) = true ∧ 1 ≤ last.column ∧
      plainSpaces ⟨separator ++ c :: rest, place⟩ = (List.replicate count ' ', ⟨c :: rest, last⟩, line) := by
  cases separates with
  | spaces =>
    obtain ⟨count, rfl⟩ : ∃ n, count = n + 1 := ⟨count - 1, by omega⟩
    have column := column_spaces place (count + 1)
    exact ⟨' ', List.replicate count ' ', _, false, rfl, rfl, by omega, plainSpaces_inside place solid (count + 1)⟩
  | fold =>
    refine ⟨'\n', foldIndent, _, true, rfl, rfl, ?_, plainSpaces_fold place solid⟩
    exact (show 1 ≤ 2 by decide)

private theorem writeRuns_words {runs : List Run} (words : Words runs) (first : Bool) (column : Nat) :
    ∃ c rest, writeRuns id first column runs = c :: rest ∧ endsToken (some c) = false ∧ c ≠ '#' := by
  have begin_ {word : List Char} (isWord : IsWord word) (more : List Char) :
      ∃ c rest, word ++ more = c :: rest ∧ endsToken (some c) = false ∧ c ≠ '#' := by
    obtain ⟨c, word, rfl⟩ := List.exists_cons_of_ne_nil isWord.some
    exact ⟨c, word ++ more, rfl, isWord.solid c List.mem_cons_self, by simpa using isWord.start⟩
  cases words with
  | last isWord => exact begin_ isWord _
  | more isWord => exact begin_ isWord _

private theorem plainFrom_goesOn (isWord : IsWord word) (ends : endsPlain false c rest.head? = true) (fuel : Nat)
    (separator : List Char) (stop : Place) (crossed : Bool) {spaces more : List Char} {d : Char} {last : Place} {line : Bool}
    (separated : plainSpaces ⟨c :: rest, word.foldl Place.after place⟩ = (spaces, ⟨d :: more, last⟩, line))
    (some : spaces ≠ []) (comment : d ≠ '#') (inside : 1 ≤ last.column) :
    plainFrom false 1 (fuel + 1) separator stop crossed ⟨word ++ c :: rest, place⟩ =
      let more := plainFrom false 1 fuel spaces (word.foldl Place.after place) line ⟨d :: more, last⟩
      { more with chars := separator ++ word ++ more.chars } := by
  have written : spaces.isEmpty = false := by simpa using some
  have sign : (Cursor.peek ⟨d :: more, last⟩ == .some '#') = false := by simpa [Cursor.peek] using comment
  have deep : decide ((last.column : Int) < 1) = false := decide_eq_false (by omega)
  rw [plainFrom_word place isWord ends 1 fuel separator stop crossed separated]
  simp only [written, sign, deep, Bool.and_false, Bool.or_self, Bool.false_eq_true, if_false]

/-- Words are read as they were written, up to the end of the last of their lines. -/
theorem plainFrom_words {runs : List Run} (words : Words runs) (next : NextLine behind) (first : Bool) (column fuel : Nat)
    (separator : List Char) (before : Place) (crossed : Bool)
    (enough : (writeRuns id first column runs).length < fuel) :
    ∃ stop last, plainFrom false 1 fuel separator before crossed ⟨writeRuns id first column runs ++ '\n' :: behind, place⟩ =
      ⟨separator ++ runs.flatMap Run.text, stop, ⟨behind, last⟩, true⟩ ∧ last.column = 0 := by
  induction words generalizing first column fuel separator before crossed place with
  | @last word isWord =>
    obtain ⟨fuel, rfl⟩ : ∃ n, fuel = n + 1 := ⟨fuel - 1, by omega⟩
    have separated := plainSpaces_end (word.foldl Place.after place) next
    have read := plainFrom_word place isWord (c := '\n') rfl 1 fuel separator before crossed separated
    have outside : ((word.foldl Place.after place).after '\n').column = 0 := rfl
    have sees (peek : Bool) : ([' '].isEmpty || peek || (!false && decide (((0 : Nat) : Int) < 1))) = true := by simp
    -- Behind the break nothing is indented, so the scalar ends with its last word.
    rw [outside, if_pos (sees _)] at read
    simp only [writeRuns, List.append_nil, List.flatMap_cons, List.flatMap_nil]
    exact ⟨_, _, read, rfl⟩
  | @more word count runs isWord some others ih =>
    obtain ⟨between, column', written, separates⟩ := writeRuns_spaces false (column + word.length) count runs
    have shape : writeRuns id first column (.solid word :: .spaces count :: runs) = word ++ (between ++ writeRuns id false column' runs) := by
      rw [← written]
      rfl
    rw [shape, List.length_append, List.length_append] at enough
    have length := List.length_pos_iff.mpr isWord.some
    obtain ⟨fuel, rfl⟩ : ∃ n, fuel = n + 1 := ⟨fuel - 1, by omega⟩
    obtain ⟨c, rest, begins, solid, comment⟩ := writeRuns_words others false column'
    obtain ⟨blank, blanks, place', line, rfl, ends, inside, separated⟩ :=
      separates.read (word.foldl Place.after place) some solid (rest ++ '\n' :: behind)
    obtain ⟨stop, last, read, atStart⟩ := ih place' false column' fuel (List.replicate count ' ') (word.foldl Place.after place) line
      (by omega)
    refine ⟨stop, last, ?_, atStart⟩
    have goesOn := plainFrom_goesOn place isWord (by rw [endsPlain, ends]; rfl) fuel separator before crossed separated
      (by simp [Nat.ne_of_gt some]) comment inside
    rw [begins, List.cons_append] at read
    simp only [read] at goesOn
    rw [shape, begins]
    simpa [Run.text] using goesOn

end

/-- What is written without quotation marks is read as a content up to the end of its last line, and begins with no
indicator. -/
structure IsPlain (written content : List Char) : Prop where
  reads : ∀ behind place, NextLine behind → ∃ stop last,
    plainScalar false 1 ⟨written ++ '\n' :: behind, place⟩ = ⟨content, stop, ⟨behind, last⟩, true⟩ ∧ last.column = 0
  begins : ∀ behind, startsMarked (written ++ '\n' :: behind) = false
  solid : endsToken written.head? = false

private theorem plainScalar_words {runs : List Run} (words : Words runs) (column : Nat) (behind : List Char) (place : Place)
    (next : NextLine behind) : ∃ stop last, plainScalar false 1 ⟨writeRuns id true column runs ++ '\n' :: behind, place⟩ =
      ⟨runs.flatMap Run.text, stop, ⟨behind, last⟩, true⟩ ∧ last.column = 0 :=
  plainFrom_words place words next true column _ [] place false
    (by simp only [List.length_append, List.length_cons]; omega)

/-- Whether an indicator stands before a blank does not depend on the blank. -/
theorem startsMarked_append {word : List Char} (some : word ≠ []) (rest rest' : List Char) (blank : blankOrEnd rest.head? = true)
    (blank' : blankOrEnd rest'.head? = true) : startsMarked (word ++ rest) = startsMarked (word ++ rest') := by
  match word with
  | [] => exact absurd rfl some
  | [c] => simp only [List.cons_append, List.nil_append, startsMarked, startsIndicator, blank, blank']
  | _ :: _ :: _ => rfl

theorem isPlain_word {word : List Char} (isWord : IsWord word) (begins : startsMarked word = false) : IsPlain word word where
  reads behind place next := by
    obtain ⟨stop, last, read, atStart⟩ := plainScalar_words (.last isWord) 0 behind place next
    simp only [writeRuns, List.append_nil, List.flatMap_cons, List.flatMap_nil] at read
    exact ⟨stop, last, read, atStart⟩
  begins behind := by
    rw [startsMarked_append isWord.some _ [] rfl rfl, List.append_nil]
    exact begins
  solid := by
    obtain ⟨c, rest, rfl⟩ := List.exists_cons_of_ne_nil isWord.some
    exact isWord.solid c List.mem_cons_self

private theorem startsMarked_words {runs : List Run} (words : Words runs) (unmarked : startsMarked (runs.flatMap Run.text) = false)
    (column : Nat) (behind : List Char) : startsMarked (writeRuns id true column runs ++ '\n' :: behind) = false := by
  cases words with
  | @last word isWord =>
    simp only [writeRuns, List.append_nil]
    exact (startsMarked_append isWord.some ('\n' :: behind) [] rfl rfl).trans unmarked
  | @more word count rest isWord some others =>
    obtain ⟨count, rfl⟩ : ∃ n, count = n + 1 := ⟨count - 1, by omega⟩
    simp only [writeRuns, id_eq, List.append_assoc]
    refine (startsMarked_append isWord.some _ (List.flatMap Run.text (.spaces (count + 1) :: rest)) ?_ rfl).trans unmarked
    split <;> rfl

theorem isPlain_text {text : List Char} (style : styleOf text = .plain) (column : Nat) :
    IsPlain (writeText column text) text := by
  have fits := styleOf_plain style
  have words := words_ofText fits
  have written : writeText column text = writeRuns id true column (Run.ofText text) := by
    unfold writeText
    rw [style]
  have whole := Run.text_ofText text
  have unmarked : startsMarked text = false := by
    simp only [fitsPlain, Bool.and_eq_true, Bool.not_eq_true', Bool.or_eq_false_iff] at fits
    exact fits.2.2
  rw [written]
  constructor
  · intro behind place next
    have read := plainScalar_words words column behind place next
    rwa [whole] at read
  · intro behind
    rw [← whole] at unmarked
    exact startsMarked_words words unmarked column behind
  · obtain ⟨c, rest, shape, solid, -⟩ := writeRuns_words words true column
    rw [shape]
    exact solid

/-- The key of an entry ends at the colon behind it. -/
theorem plainScalar_key {key : List Char} (isWord : IsWord key) (indent : Int) (rest : List Char) (place : Place) :
    plainScalar false indent ⟨key ++ ':' :: ' ' :: rest, place⟩ =
      ⟨key, key.foldl Place.after place, ⟨':' :: ' ' :: rest, key.foldl Place.after place⟩, false⟩ := by
  have separated : plainSpaces ⟨':' :: ' ' :: rest, key.foldl Place.after place⟩ =
      ([], ⟨':' :: ' ' :: rest, key.foldl Place.after place⟩, false) := rfl
  have read := plainFrom_word place isWord (c := ':') rfl indent (key ++ ':' :: ' ' :: rest).length [] place false separated
  exact read.trans (if_pos rfl)

end ElasticEndpoint.Yaml
