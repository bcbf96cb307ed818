import ElasticEndpoint.Proofs.MarkupMarks

/-!
Text without markup. A text is clear when no tag, no escaped bracket and no name of an emoji is found in it. A clear
text is shown as it stands; any other text loses marks of markup when it is shown.
-/

namespace ElasticEndpoint

namespace Console.Markup

/-! Tags. -/

private theorem tagOf?_eq_some {part tag after : List Char} (found : tagOf? part = some (tag, after)) :
    part = tag ++ ']' :: after := by
  cases part with
  | nil => cases found
  | cons c rest =>
    rw [tagOf?] at found
    split at found
    next ends =>
      have closed : ']' ∈ rest := by simpa using (Bool.and_eq_true_iff.mp ends).2
      have parts := List.takeWhile_append_dropWhile (p := (· != ']')) (l := rest)
      obtain ⟨rfl, rfl⟩ := Prod.mk.inj (Option.some.inj found)
      rcases shape : rest.dropWhile (· != ']') with _ | ⟨bracket, behind⟩
      · have all := List.dropWhile_eq_nil_iff.mp shape ']' closed
        cases all
      · have bracket := Console.dropWhile_head shape
        rw [shape] at parts
        conv => lhs; rw [← parts]
        simpa using bracket
    next => cases found

private theorem slashesAtEnd_parts (text : List Char) :
    text = text.take (text.length - slashesAtEnd text) ++ List.replicate (slashesAtEnd text) '\\' := by
  have parts := List.takeWhile_append_dropWhile (p := (· == '\\')) (l := text.reverse)
  have slashes : text.reverse.takeWhile (· == '\\') = List.replicate (slashesAtEnd text) '\\' := by
    apply List.eq_replicate_iff.mpr
    exact ⟨rfl, fun c member => by simpa using List.mem_takeWhile_imp member⟩
  have flipped := congrArg List.reverse parts
  rw [slashes, List.reverse_append, List.reverse_replicate, List.reverse_reverse] at flipped
  have count := congrArg List.length flipped
  rw [List.length_append, List.length_replicate] at count
  generalize (text.reverse.dropWhile (· == '\\')).reverse = front at flipped count
  generalize slashesAtEnd text = slashes at flipped count ⊢
  rw [← flipped]
  simp

/-- What a piece shows. -/
def Piece.text : Piece → List Char
  | .plain text => shownPlain text
  | .tag _ _ => []

theorem ok_of_bind {ε α β : Type} {first : Except ε α} {next : α → Except ε β} {value : β}
    (ended : (first >>= next) = .ok value) : ∃ middle, first = .ok middle ∧ next middle = .ok value := by
  cases first with
  | error fault => cases ended
  | ok middle => exact ⟨middle, rfl, ended⟩

theorem showPieces_text {place : Nat} {styles : List OpenStyle} {pieces : List Piece} {shown : Shown}
    (ended : showPieces place styles pieces = .ok shown) : shown.text = pieces.flatMap Piece.text := by
  induction pieces generalizing place styles shown with
  | nil => cases ended; rfl
  | cons piece rest ih =>
    rw [List.flatMap_cons]
    cases piece with
    | plain text =>
      obtain ⟨further, done, same⟩ := ok_of_bind ended
      cases same
      exact congrArg _ (ih done)
    | tag name parameters =>
      unfold showPieces at ended
      split at ended
      · dsimp only at ended
        split at ended
        all_goals
          obtain ⟨wanted, -, closing⟩ := ok_of_bind ended
          split at closing
          · cases closing
          · obtain ⟨spans, -, going⟩ := ok_of_bind closing
            obtain ⟨further, done, same⟩ := ok_of_bind going
            cases same
            exact (ih done).trans rfl
      · obtain ⟨style, -, going⟩ := ok_of_bind ended
        exact ih going

/-- Parts with the brackets in front of them. -/
def bracketed (parts : List (List Char)) : List Char := parts.flatMap ('[' :: ·)

private theorem intercalate_bracketed (first : List Char) (rest : List (List Char)) :
    ['['].intercalate (first :: rest) = first ++ bracketed rest := by
  induction rest generalizing first with
  | nil => simp [bracketed]
  | cons part rest ih =>
    rw [List.intercalate_cons_cons, ih, List.append_assoc]
    rfl

private theorem splitOn_bracketed {text first : List Char} {rest : List (List Char)}
    (split : Text.splitOn '[' text = first :: rest) : text = first ++ bracketed rest := by
  rw [← intercalate_bracketed, ← split, Text.intercalate_splitOn]

private theorem marks_plain (text : List Char) : marks ((plain text).flatMap Piece.text) ≤ marks text := by
  unfold plain
  split
  · exact Nat.zero_le _
  · simpa [Piece.text] using shownPlain_le text

private theorem marks_slashes (count : Nat) : marks (List.replicate count '\\') = 2 * count := by
  induction count with
  | zero => rfl
  | succ count ih =>
    have slash : mark '\\' = 2 := rfl
    rw [List.replicate_succ, marks_cons, ih, slash]
    omega

private theorem piecesBehind_untagged {pending : List Char} {parts : List (List Char)}
    (untagged : ∀ part ∈ parts, tagOf? part = none) :
    piecesBehind pending parts = plain (pending ++ bracketed parts) := by
  induction parts generalizing pending with
  | nil => simp [piecesBehind, bracketed]
  | cons part rest ih =>
    obtain ⟨first, others⟩ := List.forall_mem_cons.mp untagged
    rw [piecesBehind, first]
    simp [ih others, bracketed]

/-- Either no part behind a bracket begins with a tag, or the pieces show fewer marks than the text has. -/
theorem piecesBehind_marks (pending : List Char) (parts : List (List Char)) :
    (∀ part ∈ parts, tagOf? part = none) ∨
      marks ((piecesBehind pending parts).flatMap Piece.text) + 2 ≤ marks (pending ++ bracketed parts) := by
  induction parts generalizing pending with
  | nil => exact .inl (List.forall_mem_nil _)
  | cons part rest ih =>
    have shape : bracketed (part :: rest) = '[' :: part ++ bracketed rest := rfl
    unfold piecesBehind
    split
    next untagged =>
      rw [shape, ← List.append_assoc]
      rcases ih (pending ++ '[' :: part) with others | fewer
      · exact .inl (List.forall_mem_cons.mpr ⟨untagged, others⟩)
      · exact .inr fewer
    next tag after found =>
      right
      have most : marks ((piecesBehind after rest).flatMap Piece.text) ≤ marks after + marks (bracketed rest) := by
        rw [← marks_append]
        rcases ih after with others | fewer
        · rw [piecesBehind_untagged others]
          exact marks_plain _
        · omega
      -- A tag hides its bracket, and one that is escaped loses the backslash in front of it.
      have bracket : mark '[' = 2 := rfl
      have whole := congrArg marks (slashesAtEnd_parts pending)
      have front := marks_plain (pending.take (pending.length - slashesAtEnd pending))
      have half := marks_plain (List.replicate (slashesAtEnd pending / 2) '\\')
      rw [marks_append, marks_slashes] at whole
      rw [marks_slashes] at half
      rw [shape, tagOf?_eq_some found]
      simp only [List.flatMap_append, marks_append, marks_cons, bracket, List.cons_append]
      split
      next odd =>
        have odd : slashesAtEnd pending % 2 = 1 := by simpa using odd
        have shown := shownPlain_le ('[' :: tag ++ [']'])
        simp only [marks_append, marks_cons, marks_nil, bracket, List.cons_append] at shown
        simp only [List.flatMap_cons, List.flatMap_nil, List.append_nil, Piece.text]
        omega
      next =>
        have hidden : [Piece.ofTag tag].flatMap Piece.text = [] := rfl
        rw [hidden, marks_nil]
        omega

/-- A text in which no tag, no escaped bracket and no name of an emoji is found. -/
structure IsClear (text : List Char) : Prop extends IsPlain text where
  untagged : ∀ part ∈ (Text.splitOn '[' text).tail, tagOf? part = none

section

variable {c : Char} {text : List Char}

theorem unescape_cons (other : c ≠ '\\') : unescape (c :: text) = c :: unescape text := by
  rw [unescape]
  intro more same
  exact absurd same other

theorem replace_cons (other : c ≠ ':') : Emoji.replace (c :: text) = c :: Emoji.replace text := by
  obtain ⟨part, parts, shape⟩ := List.exists_cons_of_ne_nil (Text.splitOn_ne_nil ':' text)
  unfold Emoji.replace
  rw [Text.splitOn_cons other shape, shape]
  rcases parts with _ | ⟨name, _ | ⟨next, more⟩⟩
  · rfl
  · rfl
  · rw [Emoji.joinParts, Emoji.joinParts]
    split <;> rfl

theorem isPlain_cons (slash : c ≠ '\\') (colon : c ≠ ':') : IsPlain (c :: text) ↔ IsPlain text := by
  constructor
  · intro plain
    have unescaped := plain.unescaped
    have unnamed := plain.unnamed
    rw [unescape_cons slash] at unescaped
    rw [replace_cons colon] at unnamed
    exact ⟨(List.cons.inj unescaped).2, (List.cons.inj unnamed).2⟩
  · intro plain
    exact ⟨by rw [unescape_cons slash, plain.unescaped], by rw [replace_cons colon, plain.unnamed]⟩

variable (unmarked : mark c = 0)

include unmarked

private theorem unmarked_ne : c ≠ '[' ∧ c ≠ '\\' ∧ c ≠ ':' := by
  refine ⟨?_, ?_, ?_⟩
  all_goals
    rintro rfl
    cases unmarked

/-- A clear text behind a character that is no mark is one plain piece. -/
theorem pieces_clear (clear : IsClear text) : pieces (c :: text) = [.plain (c :: text)] := by
  obtain ⟨first, rest, split⟩ := List.exists_cons_of_ne_nil (Text.splitOn_ne_nil '[' text)
  have untagged := clear.untagged
  rw [split, List.tail_cons] at untagged
  unfold pieces
  rw [Text.splitOn_cons (unmarked_ne unmarked).1 split]
  dsimp only
  rw [piecesBehind_untagged untagged, List.cons_append, ← splitOn_bracketed split]
  rfl

/-- What is shown of a text that is not clear has fewer marks than the text. -/
theorem pieces_unclear (unclear : ¬IsClear text) :
    marks ((pieces (c :: text)).flatMap Piece.text) + 2 ≤ marks text := by
  obtain ⟨bracket, slash, colon⟩ := unmarked_ne unmarked
  obtain ⟨first, rest, split⟩ := List.exists_cons_of_ne_nil (Text.splitOn_ne_nil '[' text)
  have same : marks text = marks (c :: first ++ bracketed rest) := by
    rw [List.cons_append, ← splitOn_bracketed split, marks_cons, unmarked, Nat.zero_add]
  unfold pieces
  rw [Text.splitOn_cons bracket split, same]
  dsimp only
  rcases piecesBehind_marks (c :: first) rest with untagged | fewer
  · rw [piecesBehind_untagged untagged, List.cons_append, ← splitOn_bracketed split]
    rcases shownPlain_marks (c :: text) with plain | fewer
    · refine absurd ⟨(isPlain_cons slash colon).mp plain, ?_⟩ unclear
      rw [split]
      exact untagged
    · simpa [plain, Piece.text] using fewer
  · exact fewer

end

/-! Texts behind the mark of errors. -/

private theorem splitOn_same (separator : Char) (text : List Char) :
    Text.splitOn separator (separator :: text) = [] :: Text.splitOn separator text := by
  rw [Text.splitOn, if_pos (beq_self_eq_true separator)]

theorem splitOn_append {separator : Char} {first text part : List Char} {parts : List (List Char)}
    (free : first.contains separator = false) (split : Text.splitOn separator text = part :: parts) :
    Text.splitOn separator (first ++ text) = (first ++ part) :: parts := by
  induction first with
  | nil => exact split
  | cons c first ih =>
    simp only [List.contains_cons, Bool.or_eq_false_iff, beq_eq_false_iff_ne] at free
    exact Text.splitOn_cons (Ne.symm free.1) (ih free.2)

/-- A word between a tag and the one that closes it. -/
def marked (name word : List Char) : List Char := '[' :: (name ++ ']' :: word) ++ '[' :: '/' :: name ++ [']']

/-- A word that is shown as it stands, in a style that can be read in its normal form and is no action. -/
structure IsMarked (name word : List Char) (style : String) : Prop where
  free : (name ++ ']' :: word).contains '[' = false
  closing : ('/' :: name).contains '[' = false
  whole : name.contains ']' = false
  opened : tagOf? (name ++ ']' :: word) = some (name, word)
  bare : Piece.ofTag name = .tag name none
  bareClosing : Piece.ofTag ('/' :: name) = .tag ('/' :: name) none
  inside : plain word = [.plain word]
  unescaped : slashesAtEnd word = 0
  shown : shownPlain word = word
  normal : normalForm name = .ok style
  trimmed : Text.trim Text.isBlank name = name
  named : name.isEmpty = false
  opening : name.head? ≠ some '/'
  plainStyle : OpenStyle.isAction ⟨style, none, 0⟩ = false
  legible : (readStyle style.toList).toBool = true

theorem isMarked_error : IsMarked "red".toList "Error:".toList "red" := by
  constructor
  case normal => rfl
  all_goals decide +kernel

private theorem tagOf?_closing {name : List Char} (whole : name.contains ']' = false) (after : List Char) :
    tagOf? ('/' :: name ++ ']' :: after) = some ('/' :: name, after) := by
  have other : ∀ c ∈ name, (c != ']') = true := by
    intro c member
    rw [bne_iff_ne]
    rintro rfl
    rw [List.contains_eq_mem, decide_eq_true member] at whole
    cases whole
  have begins : beginsTag '/' = true := rfl
  rw [List.cons_append, tagOf?, begins, List.takeWhile_append_of_pos other, List.dropWhile_append_of_pos other]
  simp

section

variable {name word : List Char} {style : String} (isMarked : IsMarked name word style)

include isMarked

private theorem pieces_marked (text : List Char) :
    pieces (marked name word ++ ' ' :: text) =
      .tag name none :: .plain word :: .tag ('/' :: name) none :: pieces (' ' :: text) := by
  obtain ⟨first, rest, shape⟩ := List.exists_cons_of_ne_nil (Text.splitOn_ne_nil '[' text)
  have behind := Text.splitOn_cons (show ' ' ≠ '[' by decide) shape
  have closing : Text.splitOn '[' ('/' :: name ++ ']' :: ' ' :: text) =
      ('/' :: name ++ ']' :: ' ' :: first) :: rest :=
    splitOn_append isMarked.closing (Text.splitOn_cons (by decide) behind)
  have whole : Text.splitOn '[' (marked name word ++ ' ' :: text) =
      [] :: (name ++ ']' :: word) :: ('/' :: name ++ ']' :: ' ' :: first) :: rest := by
    have same : marked name word ++ ' ' :: text =
        '[' :: ((name ++ ']' :: word) ++ '[' :: ('/' :: name ++ ']' :: ' ' :: text)) := by simp [marked]
    rw [same, splitOn_same, splitOn_append isMarked.free (splitOn_same ..), closing, List.append_nil]
  unfold pieces
  rw [whole, behind]
  dsimp only
  rw [piecesBehind, isMarked.opened]
  dsimp only
  rw [piecesBehind, tagOf?_closing isMarked.whole]
  dsimp only
  have none : slashesAtEnd [] = 0 := rfl
  have empty : plain [] = [] := rfl
  have whole : word.take (word.length - 0) = word := List.take_length
  rw [none, isMarked.unescaped, isMarked.bare, isMarked.bareClosing, whole, isMarked.inside]
  simp [empty]

theorem showPieces_marked (text : List Char) :
    showPieces 0 [] (pieces (marked name word ++ ' ' :: text)) =
      (showPieces word.length [] (pieces (' ' :: text))).map fun further =>
        ⟨word ++ further.text, ⟨0, word.length, style.toList⟩ :: further.spans⟩ := by
  have closes : close (some style) [⟨style, none, 0⟩] = some (⟨style, none, 0⟩, []) := by simp [close]
  have closed : OpenStyle.closed ⟨style, none, 0⟩ word.length = .ok [⟨0, word.length, style.toList⟩] := by
    rw [OpenStyle.closed, isMarked.plainStyle]
    simp [OpenStyle.span]
  rw [pieces_marked isMarked, showPieces, isMarked.normal]
  · change showPieces 0 [⟨style, none, 0⟩] _ = _
    rw [showPieces, isMarked.shown, Nat.zero_add]
    rw [showPieces]
    dsimp only
    rw [isMarked.trimmed, isMarked.named, isMarked.normal]
    dsimp only [Functor.map, Except.map, bind, Except.bind]
    rw [if_neg Bool.false_ne_true, closes]
    dsimp only
    rw [closed]
    cases showPieces word.length [] (pieces (' ' :: text)) with
    | error fault => rfl
    | ok further => rfl
  · rintro closing rfl
    exact isMarked.opening rfl

end

/-- What is shown of a text behind a character that is no mark. -/
theorem pieces_marks {c : Char} (unmarked : mark c = 0) (text : List Char) :
    (IsClear text ∧ marks ((pieces (c :: text)).flatMap Piece.text) ≤ marks text) ∨
      marks ((pieces (c :: text)).flatMap Piece.text) + 2 ≤ marks text := by
  by_cases clear : IsClear text
  · left
    have most := shownPlain_le (c :: text)
    rw [marks_cons, unmarked, Nat.zero_add] at most
    rw [pieces_clear unmarked clear]
    exact ⟨clear, by simpa [Piece.text] using most⟩
  · exact .inr (pieces_unclear unmarked clear)

/-- A clear text behind a character that is no mark is shown as it stands. -/
theorem showPieces_clear {c : Char} {text : List Char} (unmarked : mark c = 0) (clear : IsClear text) (place : Nat) :
    showPieces place [] (pieces (c :: text)) = .ok ⟨(c :: text).filter fun c => !isDropped c, []⟩ := by
  obtain ⟨-, slash, colon⟩ := unmarked_ne unmarked
  have plain := (isPlain_cons slash colon).mpr clear.toIsPlain
  rw [pieces_clear unmarked clear, showPieces, plain.shown]
  exact congrArg (fun shown => Except.ok (Shown.mk shown [])) (List.append_nil _)

/-- A text without an opening bracket is all plain. -/
theorem showPieces_bracketless {text : List Char} (free : text.contains '[' = false) (place : Nat) :
    showPieces place [] (pieces text) = .ok ⟨shownPlain text, []⟩ := by
  have whole : Text.splitOn '[' text = [text] := by
    have split := splitOn_append free (show Text.splitOn '[' [] = [[]] from rfl)
    rwa [List.append_nil] at split
  have pieces : pieces text = plain text := by
    unfold Markup.pieces
    rw [whole]
    rfl
  rw [pieces]
  unfold plain
  split
  next empty =>
    rw [List.isEmpty_iff.mp empty]
    rfl
  next => exact congrArg (fun shown => Except.ok (Shown.mk shown [])) (List.append_nil _)

end Console.Markup

end ElasticEndpoint
