import ElasticEndpoint.Proofs.WrappedLines

/-!
Marks of markup: brackets, backslashes and colons. No emoji holds one of them. So a text that an escaped bracket
or the name of an emoji is found in has fewer of them when it is shown, and no text has more.
-/

namespace ElasticEndpoint

namespace Text

theorem splitOn_ne_nil (separator : Char) (text : List Char) : splitOn separator text ≠ [] := by
  cases text with
  | nil => exact List.cons_ne_nil _ _
  | cons c rest =>
    unfold splitOn
    split
    · exact List.cons_ne_nil _ _
    · split <;> exact List.cons_ne_nil _ _

theorem splitOn_cons {separator c : Char} (other : c ≠ separator) {text part : List Char} {parts : List (List Char)}
    (split : splitOn separator text = part :: parts) : splitOn separator (c :: text) = (c :: part) :: parts := by
  rw [splitOn, if_neg (by simpa using other), split]

theorem intercalate_splitOn (separator : Char) (text : List Char) :
    [separator].intercalate (splitOn separator text) = text := by
  induction text with
  | nil => rfl
  | cons c rest ih =>
    obtain ⟨part, parts, shape⟩ := List.exists_cons_of_ne_nil (splitOn_ne_nil separator rest)
    rw [shape] at ih
    by_cases same : c = separator
    · rw [splitOn, if_pos (by simpa using same), shape, List.intercalate_cons_cons, ih, same]
      rfl
    · rw [splitOn_cons same shape, ← ih]
      cases parts <;> simp

end Text

namespace Console.Markup

/-- What a character adds to the marks of a text. A tag takes at least a bracket with it, an emoji two colons. -/
def mark (c : Char) : Nat := if c = '[' ∨ c = '\\' then 2 else if c = ':' then 1 else 0

def marks : List Char → Nat
  | [] => 0
  | c :: rest => mark c + marks rest

@[simp]
theorem marks_nil : marks [] = 0 := rfl

@[simp]
theorem marks_cons (c : Char) (rest : List Char) : marks (c :: rest) = mark c + marks rest := rfl

@[simp]
theorem marks_append (first rest : List Char) : marks (first ++ rest) = marks first + marks rest := by
  induction first with
  | nil => exact (Nat.zero_add _).symm
  | cons c first ih => rw [List.cons_append, marks_cons, marks_cons, ih, Nat.add_assoc]

theorem marks_sublist {first rest : List Char} (part : first.Sublist rest) : marks first ≤ marks rest := by
  induction part with
  | slnil => exact Nat.le_refl _
  | cons c _ ih => rw [marks_cons]; omega
  | cons_cons c _ ih => rw [marks_cons, marks_cons]; omega

private theorem mark_other {c : Char} (bracket : c ≠ '[') (slash : c ≠ '\\') (colon : c ≠ ':') : mark c = 0 := by
  unfold mark
  rw [if_neg (not_or.mpr ⟨bracket, slash⟩), if_neg colon]

private theorem mark_hidden {c : Char} (hidden : Text.isVisible c = false) : mark c = 0 := by
  apply mark_other
  all_goals
    rintro rfl
    cases hidden

theorem marks_visible (text : List Char) : marks (Text.visible text) = marks text := by
  induction text with
  | nil => rfl
  | cons c rest ih =>
    unfold Text.visible at ih ⊢
    rw [List.filter_cons]
    split
    next => rw [marks_cons, marks_cons, ih]
    next hidden => rw [marks_cons, mark_hidden (by simpa using hidden), ih, Nat.zero_add]

/-! Emoji. -/

/-- No character of a text, by its number, is a bracket, a backslash or a colon. -/
def isClean (chars : List Char) : Bool := chars.all fun c => !(c.toNat.beq 91 || c.toNat.beq 92 || c.toNat.beq 58)

private theorem marks_clean {chars : List Char} (clean : isClean chars = true) : marks chars = 0 := by
  induction chars with
  | nil => rfl
  | cons c rest ih =>
    obtain ⟨first, others⟩ := Bool.and_eq_true_iff.mp clean
    have zero : mark c = 0 := by
      apply mark_other
      all_goals
        rintro rfl
        cases first
    rw [marks_cons, zero, ih others]

/-- Lines, and the characters that each of them is spelled with. -/
inductive Spelled : List String → List (List Char) → Prop where
  | nil : Spelled [] []
  | cons {chars lines rest} (others : Spelled lines rest) : Spelled (String.ofList chars :: lines) (chars :: rest)

theorem Spelled.marks {lines : List String} {spelling : List (List Char)} (spelled : Spelled lines spelling)
    (clean : spelling.all isClean = true) : ∀ line ∈ lines, marks line.toList = 0 := by
  induction spelled with
  | nil => exact List.forall_mem_nil _
  | @cons chars lines rest _ ih =>
    obtain ⟨first, others⟩ := Bool.and_eq_true_iff.mp clean
    refine List.forall_mem_cons.mpr ⟨?_, ih others⟩
    rw [String.toList_ofList]
    exact marks_clean first

-- All lines are spelled first, so that one evaluation looks through them.
set_option maxRecDepth 100000 in
private theorem marks_nameLines : ∀ line ∈ Emoji.nameLines, marks line.toList = 0 := by
  have spelled : ∃ spelling, Spelled Emoji.nameLines spelling ∧ spelling.all isClean = true := by
    apply Exists.intro
    apply And.intro
    · repeat' first
        | apply Spelled.cons
        | exact Spelled.nil
    · decide +kernel
  obtain ⟨spelling, spelled, clean⟩ := spelled
  exact spelled.marks clean

private theorem pairs_parts {parts : List (List Char)} {entry : String × String} (member : entry ∈ Emoji.pairs parts) :
    entry.2.toList ∈ parts := by
  fun_induction Emoji.pairs parts with
  | case1 name emoji rest ih =>
    rcases List.mem_cons.mp member with rfl | further
    · simp
    · exact List.mem_cons_of_mem _ (List.mem_cons_of_mem _ (ih further))
  | case2 => cases member

private theorem marks_table {entry : String × String} (member : entry ∈ Emoji.table) : marks entry.2.toList = 0 := by
  obtain ⟨line, among, pair⟩ := List.mem_flatMap.mp member
  have part := (List.sublist_flatten_of_mem (pairs_parts pair)).trans
    (Text.splitOn_flatten ' ' line.toList ▸ List.filter_sublist)
  have most := marks_sublist part
  rw [marks_nameLines line among] at most
  omega

private theorem marks_form (name : List Char) : marks (Emoji.splitForm name).2 = 0 := by
  unfold Emoji.splitForm
  split
  next ending form found =>
    have among := List.mem_of_find?_eq_some found
    simp only [Emoji.forms, List.mem_cons, List.not_mem_nil, or_false, Prod.mk.injEq] at among
    have zero : mark form = 0 := by rcases among with ⟨-, rfl⟩ | ⟨-, rfl⟩ <;> rfl
    rw [marks_cons, zero, marks_nil]
  next => rfl

/-- The name of an emoji takes the colons around it along. -/
theorem marks_shown (between : List Char) :
    Emoji.shown between = ':' :: between ++ [':'] ∨ marks (Emoji.shown between) = 0 := by
  unfold Emoji.shown
  dsimp only
  split
  next emoji found =>
    right
    unfold Emoji.ofName? at found
    split at found
    · cases found
    · obtain ⟨entries, others, shape, -⟩ := List.lookup_eq_some_iff.mp found
      have zero := marks_table (shape ▸ List.mem_append_right entries List.mem_cons_self)
      rw [marks_append, marks_form, zero]
  next => exact .inl rfl

/-- Parts between colons are joined by colons again, unless one of them names an emoji. -/
theorem joinParts_marks (parts : List (List Char)) :
    Emoji.joinParts parts = [':'].intercalate parts ∨
      marks (Emoji.joinParts parts) + 2 ≤ marks ([':'].intercalate parts) := by
  fun_induction Emoji.joinParts parts with
  | case1 => exact .inl rfl
  | case2 part => simp
  | case3 part name => simp
  | case4 part name next more blank ih =>
    rw [List.intercalate_cons_cons]
    rcases ih with same | fewer
    · simp [same]
    · right
      simp only [marks_append, marks_cons, marks_nil]
      omega
  | case5 part name next more _ ih =>
    rw [List.intercalate_cons_cons, List.intercalate_cons_cons]
    have colon : mark ':' = 1 := rfl
    rcases marks_shown name with kept | gone
    · rcases ih with same | fewer
      · simp [kept, same]
      · right
        simp only [kept, marks_append, marks_cons, marks_nil, colon]
        omega
    · right
      rcases ih with same | fewer
      · simp only [same, gone, marks_append, marks_cons, marks_nil, colon]
        omega
      · simp only [gone, marks_append, marks_cons, marks_nil, colon]
        omega

private theorem replace_marks (text : List Char) : Emoji.replace text = text ∨ marks (Emoji.replace text) + 2 ≤ marks text := by
  have joined := joinParts_marks (Text.splitOn ':' text)
  rwa [Text.intercalate_splitOn] at joined

/-! Escapes. -/

private theorem unescape_marks (text : List Char) : unescape text = text ∨ marks (unescape text) + 2 ≤ marks text := by
  fun_induction unescape text with
  | case1 rest ih =>
    have slash : mark '\\' = 2 := rfl
    right
    simp only [marks_cons, slash]
    rcases ih with same | fewer
    · rw [same]
      omega
    · omega
  | case2 c rest _ ih =>
    rcases ih with same | fewer
    · exact .inl (congrArg _ same)
    · exact .inr (by simpa [Nat.add_assoc] using fewer)
  | case3 => exact .inl rfl

/-- A text that is shown as it stands, where no tag is found in it. -/
structure IsPlain (text : List Char) : Prop where
  unescaped : unescape text = text
  unnamed : Emoji.replace text = text

theorem shownPlain_marks (text : List Char) : IsPlain text ∨ marks (shownPlain text) + 2 ≤ marks text := by
  have kept : marks (shownPlain text) ≤ marks (Emoji.replace (unescape text)) := marks_sublist List.filter_sublist
  rcases unescape_marks text with unescaped | fewer
  · rw [unescaped] at kept
    rcases replace_marks text with unnamed | fewer
    · exact .inl ⟨unescaped, unnamed⟩
    · exact .inr (by omega)
  · right
    rcases replace_marks (unescape text) with same | less
    · rw [same] at kept
      omega
    · omega

theorem IsPlain.shown {text : List Char} (plain : IsPlain text) :
    shownPlain text = text.filter fun c => !isDropped c := by
  rw [shownPlain, plain.unescaped, plain.unnamed]

theorem shownPlain_le (text : List Char) : marks (shownPlain text) ≤ marks text := by
  rcases shownPlain_marks text with plain | fewer
  · rw [plain.shown]
    exact marks_sublist List.filter_sublist
  · omega

end Console.Markup

end ElasticEndpoint
