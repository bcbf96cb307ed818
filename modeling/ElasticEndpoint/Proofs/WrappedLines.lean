import Mathlib.Data.List.Basic
import Mathlib.Data.List.TakeWhile
import ElasticEndpoint.Proofs.ScreenCells

/-!
Wrapped lines. Wherever a text is cut into lines, what is cut off shows nothing that the text does not show. The
lines of a steady text show all of it: each is filled with words as long as they fit, and a word that fits on no line
is cut into pieces that do.
-/

namespace ElasticEndpoint

open Text (Cluster IsSteady visible isBlank total trimEnd)

namespace Text

variable {text : List Char}

private theorem trimEnd_append_blanks (text : List Char) :
    ∃ tail, text = trimEnd isBlank text ++ tail ∧ tail.length = (text.reverse.takeWhile isBlank).length ∧
      ∀ c ∈ tail, isBlank c = true := by
  refine ⟨(text.reverse.takeWhile isBlank).reverse, ?_, List.length_reverse, ?_⟩
  · unfold trimEnd
    rw [← List.reverse_append, List.takeWhile_append_dropWhile, List.reverse_reverse]
  · intro c member
    exact List.mem_takeWhile_imp (List.mem_reverse.mp member)

/-- Only the last part of a text loses the blanks at its end, unless that part is blank. -/
theorem trimEnd_append {first rest : List Char} (solid : ∃ c ∈ rest, isBlank c = false) :
    trimEnd isBlank (first ++ rest) = first ++ trimEnd isBlank rest := by
  obtain ⟨c, member, inked⟩ := solid
  have left : rest.reverse.dropWhile isBlank ≠ [] := by
    intro none
    have blank := List.dropWhile_eq_nil_iff.mp none c (List.mem_reverse.mpr member)
    rw [inked] at blank
    cases blank
  unfold trimEnd
  rw [List.reverse_append, List.dropWhile_append, if_neg (by simpa using left)]
  simp

theorem splitOn_flatten (separator : Char) (text : List Char) :
    (splitOn separator text).flatten = text.filter (· != separator) := by
  induction text with
  | nil => rfl
  | cons c rest ih =>
    unfold splitOn
    split
    next same => simp [beq_iff_eq.mp same, ih]
    next other =>
      have kept : (c != separator) = true := by simpa using other
      rw [List.filter_cons, if_pos kept, ← ih]
      cases splitOn separator rest <;> rfl

private theorem visible_splitOn {separator : Char} (hidden : isVisible separator = false) (text : List Char) :
    visible (splitOn separator text).flatten = visible text := by
  unfold visible
  rw [splitOn_flatten, List.filter_filter]
  congr 1
  funext c
  by_cases same : c = separator
  · simp [same, hidden]
  · simp [same]

private theorem visible_flatten (lines : List (List Char)) : visible lines.flatten = lines.flatMap visible := by
  unfold visible
  rw [List.filter_flatten]
  rfl

end Text

namespace Console

variable {width : Nat}

/-! What lines show at most. -/

private theorem cutAt_flatten (place : Nat) (text : List Char) (breaks : List Nat) : (cutAt place text breaks).flatten = text := by
  induction breaks generalizing place text with
  | nil => simp [cutAt]
  | cons next rest ih => simp [cutAt, ih, List.take_append_drop]

private theorem trimOverhang_begins (width : Nat) (line : List Char) : trimOverhang width line <+: line := List.take_prefix ..

private theorem visible_truncate (line : List Char) : (visible (Overflow.fold.truncate width line)).Sublist (visible line) := by
  unfold Overflow.truncate
  split
  · exact List.Sublist.refl _
  · change (visible (cropCells width line)).Sublist _
    unfold cropCells
    split
    · exact List.Sublist.refl _
    · have shows := visible_takeCells width (Text.clusters line)
      rwa [Text.clusters_text] at shows

private theorem flatMap_sublist {α β : Type} {first second : α → List β} (each : ∀ item, (first item).Sublist (second item))
    (items : List α) : (items.flatMap first).Sublist (items.flatMap second) := by
  induction items with
  | nil => exact List.Sublist.refl _
  | cons item rest ih => exact (each item).append ih

private theorem visible_fillLines_sublist (text : List Char) :
    (visible (fillLines .fold width text).flatten).Sublist (visible text) := by
  unfold fillLines
  rw [Text.visible_flatten, List.flatMap_map]
  conv => rhs; rw [← cutAt_flatten 0 text
    ((wordsWithin (text.length + 1) text).foldl (Filling.add .fold width) {}).breaks, Text.visible_flatten]
  apply flatMap_sublist
  intro line
  exact (visible_truncate _).trans ((trimOverhang_begins width line).sublist.filter _)

private theorem visible_joinColumns (column : Nat) (parts : List (List Char)) :
    visible (joinColumns column parts) = visible parts.flatten := by
  fun_induction joinColumns column parts with
  | case1 => rfl
  | case2 => simp
  | case3 column part rest _ behind gap ih =>
    rw [Text.visible_append, Text.visible_append, Text.visible_blanks, ih]
    simp

private theorem visible_expandTabs (line : List Char) : visible (expandTabs line) = visible line := by
  unfold expandTabs
  rw [visible_joinColumns, Text.visible_splitOn rfl]

private theorem visible_wrap (overflow : Overflow) (width : Nat) (text : List Char) :
    visible (wrap overflow width text).flatten =
      (Text.splitOn '\n' text).flatMap fun line => visible (fillLines overflow width (expandTabs line)).flatten := by
  unfold wrap
  rw [Text.visible_flatten, List.flatMap_assoc]
  simp only [Text.visible_flatten]

theorem visible_wrap_sublist (text : List Char) : (visible (wrap .fold width text).flatten).Sublist (visible text) := by
  rw [visible_wrap, ← Text.visible_splitOn (show Text.isVisible '\n' = false from rfl) text, Text.visible_flatten]
  apply flatMap_sublist
  intro line
  rw [← visible_expandTabs line]
  exact visible_fillLines_sublist _

/-! What the lines of a steady text show. -/

/-- The pieces that a row of full clusters is cut into hold its characters in order, none is empty, and each fits. -/
theorem chopFrom_pieces {row : List Cluster} (full : ∀ cluster ∈ row, cluster.IsFull ∧ cluster.cells ≤ width)
    {piece : List Char} {used : Nat} (counted : used = total piece) (room : used ≤ width)
    (filled : 0 < used + total (row.flatMap (·.text))) :
    (chopFrom width piece used row).flatten = piece ++ row.flatMap (·.text) ∧
      ∀ part ∈ chopFrom width piece used row, part ≠ [] ∧ total part ≤ width := by
  induction row generalizing piece used with
  | nil =>
    have positive : used ≠ 0 := by
      simp [total] at filled
      omega
    have held : piece ≠ [] := by
      rintro rfl
      exact positive counted
    rw [chopFrom, if_neg (by simpa using positive)]
    simp [held, ← counted, room]
  | cons cluster rest ih =>
    obtain ⟨⟨whole, narrow⟩, others⟩ := List.forall_mem_cons.mp full
    unfold chopFrom
    split
    next beyond =>
      obtain ⟨flat, parts⟩ := ih others whole.total narrow (by omega)
      have held : piece ≠ [] := by
        rintro rfl
        simp [total] at counted
        omega
      rw [List.flatten_cons, flat]
      exact ⟨by simp, List.forall_mem_cons.mpr ⟨⟨held, by omega⟩, parts⟩⟩
    next fits =>
      rw [List.flatMap_cons, Text.total_append] at filled
      have taken : used + cluster.cells = total (piece ++ cluster.text) := by
        rw [Text.total_append, whole.total, counted]
      obtain ⟨flat, parts⟩ := ih others taken (by omega) (by rw [whole.total]; omega)
      exact ⟨by simp [flat], parts⟩

private theorem drop_takeWhile (drops : Char → Bool) (text : List Char) :
    text.drop (text.takeWhile drops).length = text.dropWhile drops := by
  conv => lhs; arg 2; rw [← List.takeWhile_append_dropWhile (p := drops) (l := text)]
  exact List.drop_left

theorem dropWhile_head {drops : Char → Bool} {text rest : List Char} {c : Char}
    (dropped : text.dropWhile drops = c :: rest) : drops c = false := by
  have head := List.head?_dropWhile_not drops text
  rw [dropped] at head
  exact head

/-- The words of a text that is not blank are the text, and each holds more than blanks. -/
theorem wordsWithin_words {fuel : Nat} {text : List Char} (enough : text.length < fuel) :
    ((∀ c ∈ text, isBlank c = true) ∨ (wordsWithin fuel text).flatten = text) ∧
      ∀ word ∈ wordsWithin fuel text, ∃ c ∈ word, isBlank c = false := by
  induction fuel generalizing text with
  | zero => omega
  | succ fuel ih =>
    have front := List.takeWhile_append_dropWhile (p := isBlank) (l := text)
    unfold wordsWithin
    dsimp only
    rw [drop_takeWhile]
    rcases shape : text.dropWhile isBlank with _ | ⟨c, rest⟩
    · exact ⟨.inl (List.dropWhile_eq_nil_iff.mp shape), List.forall_mem_nil _⟩
    · have inked : isBlank c = false := dropWhile_head shape
      have word := List.takeWhile_append_dropWhile (p := fun c => !isBlank c) (l := rest)
      have gap := List.takeWhile_append_dropWhile (p := isBlank) (l := rest.dropWhile fun c => !isBlank c)
      rw [shape, ← word, ← gap] at front
      rw [drop_takeWhile, drop_takeWhile, List.takeWhile_cons_of_pos (by simpa using inked),
        List.dropWhile_cons_of_pos (by simpa using inked)]
      generalize text.takeWhile isBlank = before at front ⊢
      generalize rest.takeWhile (fun c => !isBlank c) = word at front ⊢
      generalize shorter : (rest.dropWhile fun c => !isBlank c).dropWhile isBlank = behind at front ⊢
      generalize (rest.dropWhile fun c => !isBlank c).takeWhile isBlank = blanks at front ⊢
      have less : behind.length < fuel := by
        rw [← front] at enough
        simp at enough
        omega
      obtain ⟨flat, words⟩ := ih less
      constructor
      · right
        have flat : (wordsWithin fuel behind).flatten = behind := by
          rcases flat with blank | flat
          · -- What is behind a word and its blanks begins with another word, if there is anything.
            cases behind with
            | nil => cases fuel <;> rfl
            | cons next _ =>
              have other := dropWhile_head shorter
              rw [blank next List.mem_cons_self] at other
              cases other
          · exact flat
        simp [flat, ← front]
      · exact List.forall_mem_cons.mpr ⟨⟨c, by simp, inked⟩, words⟩

/-- What is left of a line at its end holds everything in front of its last blanks. -/
theorem trimOverhang_body (width : Nat) (line : List Char) :
    ∃ tail, trimOverhang width line = trimEnd isBlank line ++ tail ∧ ∀ c ∈ tail, isBlank c = true := by
  obtain ⟨tail, parts, count, blank⟩ := Text.trimEnd_append_blanks line
  generalize trimEnd isBlank line = body at parts
  refine ⟨tail.take (line.length - min tail.length (line.length - width) - body.length), ?_, ?_⟩
  · unfold trimOverhang
    rw [← count, parts, List.take_append, List.take_of_length_le]
    simp
    omega
  · intro c member
    exact blank c (List.mem_of_mem_take member)

/-- A steady line that fits but for blanks at its end shows everything. -/
theorem visible_line {line : List Char} (steady : IsSteady line) (fits : total (trimEnd isBlank line) ≤ width)
    (positive : 0 < width) : visible (Overflow.fold.truncate width (trimOverhang width line)) = visible line := by
  obtain ⟨tail, cut, blank⟩ := trimOverhang_body width line
  obtain ⟨rest, whole, -, others⟩ := Text.trimEnd_append_blanks line
  have same : visible (trimOverhang width line) = visible line := by
    conv => rhs; rw [whole]
    rw [cut, Text.visible_append, Text.visible_append, Text.visible_blank blank, Text.visible_blank others]
  have kept : IsSteady (trimOverhang width line) := fun c member =>
    steady c ((trimOverhang_begins width line).subset member)
  unfold Overflow.truncate
  split
  · exact same
  · rw [cut] at kept same ⊢
    exact (visible_cropCells kept blank fits positive).trans same

theorem placesOf_append (place : Nat) (first rest : List (List Char)) :
    placesOf place (first ++ rest) = placesOf place first ++ placesOf (place + first.flatten.length) rest := by
  induction first generalizing place with
  | nil => rfl
  | cons piece first ih => simp [placesOf, ih, Nat.add_assoc]

private theorem cutAt_pieces (place : Nat) (first : List Char) (rest : List (List Char)) :
    cutAt place (first ++ rest.flatten) (placesOf (place + first.length) rest) = first :: rest := by
  induction rest generalizing place first with
  | nil => simp [placesOf, cutAt]
  | cons piece rest ih => simp [placesOf, cutAt, ih]

private theorem placesOf_positive {place : Nat} (positive : 0 < place) (pieces : List (List Char)) :
    (placesOf place pieces).filter (0 < ·) = placesOf place pieces := by
  apply List.filter_eq_self.mpr
  induction pieces generalizing place with
  | nil => simp [placesOf]
  | cons piece rest ih =>
    exact List.forall_mem_cons.mpr ⟨by simpa using positive, ih (by omega)⟩

private theorem cutAt_lines {first : List Char} (held : first ≠ []) (rest : List (List Char)) :
    cutAt 0 (first :: rest).flatten ((placesOf 0 (first :: rest)).filter (0 < ·)) = first :: rest := by
  have positive : 0 < 0 + first.length := by
    rw [Nat.zero_add]
    exact List.length_pos_iff.mpr held
  rw [placesOf, List.filter_cons, if_neg (by simp), placesOf_positive positive]
  exact cutAt_pieces 0 first rest

/-- The lines that a filling stands for: they hold what has been filled in, none is empty, and each fits but for
blanks at its end. -/
structure Filling.Holds (width : Nat) (filling : Filling) (lines : List (List Char)) : Prop where
  place : filling.place = lines.flatten.length
  used : filling.used = total (lines.getLastD [])
  breaks : filling.breaks = (placesOf 0 lines).filter (0 < ·)
  held : ∀ line ∈ lines, line ≠ []
  fits : ∀ line ∈ lines, total (trimEnd isBlank line) ≤ width

private theorem total_trimEnd (text : List Char) : total (trimEnd isBlank text) ≤ total text := by
  obtain ⟨tail, parts, -⟩ := Text.trimEnd_append_blanks text
  conv => rhs; rw [parts, Text.total_append]
  omega

theorem Filling.holds_nil : Filling.Holds width {} [] where
  place := rfl
  used := rfl
  breaks := rfl
  held := List.forall_mem_nil _
  fits := List.forall_mem_nil _

/-- A filling with more lines. -/
theorem Filling.Holds.append {filling after : Filling} {lines more : List (List Char)} (holds : filling.Holds width lines)
    (place : after.place = filling.place + more.flatten.length) (used : after.used = total (more.getLastD []))
    (breaks : after.breaks = filling.breaks ++ (placesOf filling.place more).filter (0 < ·)) (some : more ≠ [])
    (held : ∀ line ∈ more, line ≠ [] ∧ total (trimEnd isBlank line) ≤ width) : after.Holds width (lines ++ more) where
  place := by rw [place, holds.place, List.flatten_append, List.length_append]
  used := by
    obtain ⟨front, last, rfl⟩ := (List.eq_nil_or_concat more).resolve_left some
    rw [used]
    simp [List.getLastD_eq_getLast?]
  breaks := by rw [breaks, holds.breaks, holds.place, placesOf_append, List.filter_append, Nat.zero_add]
  held := List.forall_mem_append.mpr ⟨holds.held, fun line member => (held line member).1⟩
  fits := List.forall_mem_append.mpr ⟨holds.fits, fun line member => (held line member).2⟩

private theorem steady_clusters {text : List Char} (steady : IsSteady text) (wide : 2 ≤ width) :
    ∀ cluster ∈ Text.clusters text, cluster.IsFull ∧ cluster.cells ≤ width := by
  have narrow {cluster : Cluster} (solid : cluster.IsSolid) : cluster.IsFull ∧ cluster.cells ≤ width := by
    obtain ⟨c, -, -, cells⟩ := solid.first
    exact ⟨solid.toIsFull, cells ▸ (Text.cellWidth_le c).trans wide⟩
  rcases Text.clusters_row steady with none | ⟨first, others, row, full, zero | solid, rest⟩
  · rw [none]
    exact List.forall_mem_nil _
  · rw [row]
    exact List.forall_mem_cons.mpr ⟨⟨full, by omega⟩, fun cluster member => narrow (rest cluster member)⟩
  · rw [row]
    exact List.forall_mem_cons.mpr ⟨narrow solid, fun cluster member => narrow (rest cluster member)⟩

/-- A word that is too long is chopped into pieces that are not. -/
theorem chopCells_pieces {word : List Char} (steady : IsSteady word) (wide : 2 ≤ width) (filled : 0 < total word) :
    (chopCells width word).flatten = word ∧ chopCells width word ≠ [] ∧
      ∀ piece ∈ chopCells width word, piece ≠ [] ∧ total piece ≤ width := by
  have some : 0 < 0 + total ((Text.clusters word).flatMap (·.text)) := by
    rw [Text.clusters_text]
    omega
  obtain ⟨flat, pieces⟩ :=
    chopFrom_pieces (steady_clusters steady wide) (show 0 = total [] from rfl) (Nat.zero_le _) some
  rw [Text.clusters_text, List.nil_append] at flat
  refine ⟨flat, ?_, pieces⟩
  intro none
  rw [show chopFrom width [] 0 (Text.clusters word) = [] from none] at flat
  subst flat
  cases filled

/-- A filling whose last line takes one more word. -/
theorem Filling.Holds.extend {filling after : Filling} {lines : List (List Char)} {word : List Char}
    (holds : filling.Holds width lines) (inked : ∃ c ∈ word, isBlank c = false)
    (room : filling.used + total (trimEnd isBlank word) ≤ width) (place : after.place = filling.place + word.length)
    (used : after.used = filling.used + total word) (breaks : after.breaks = filling.breaks) :
    ∃ more, after.Holds width more ∧ more.flatten = lines.flatten ++ word := by
  have held : word ≠ [] := by
    obtain ⟨c, member, -⟩ := inked
    exact List.ne_nil_of_mem member
  rcases List.eq_nil_or_concat lines with rfl | ⟨front, last, rfl⟩
  · have empty : filling.used = 0 := holds.used
    refine ⟨[word], ⟨?_, ?_, ?_, ?_, ?_⟩, by simp⟩
    · simp [place, holds.place]
    · simp [used, empty]
    · simp [breaks, holds.breaks, placesOf]
    · simpa using held
    · simpa using (by omega : total (trimEnd isBlank word) ≤ width)
  · rw [List.concat_eq_append] at holds ⊢
    have earlier : filling.used = total last := by
      rw [holds.used]
      simp [List.getLastD_eq_getLast?]
    obtain ⟨before, -⟩ := List.forall_mem_append.mp holds.held
    obtain ⟨fitting, -⟩ := List.forall_mem_append.mp holds.fits
    refine ⟨front ++ [last ++ word], ⟨?_, ?_, ?_, ?_, ?_⟩, by simp⟩
    · simp [place, holds.place, Nat.add_assoc]
    · simp [List.getLastD_eq_getLast?, used, earlier, Text.total_append]
    · simp [breaks, holds.breaks, placesOf_append, placesOf]
    · exact List.forall_mem_append.mpr ⟨before, by simp [held]⟩
    · refine List.forall_mem_append.mpr ⟨fitting, List.forall_mem_singleton.mpr ?_⟩
      rw [Text.trimEnd_append inked, Text.total_append]
      omega

/-- A filling that takes one more word holds what it held and the word. -/
theorem Filling.Holds.add {filling : Filling} {lines : List (List Char)} {word : List Char}
    (holds : filling.Holds width lines) (steady : IsSteady word) (inked : ∃ c ∈ word, isBlank c = false)
    (wide : 2 ≤ width) :
    ∃ more, (filling.add .fold width word).Holds width more ∧ more.flatten = lines.flatten ++ word := by
  have short : IsSteady (trimEnd isBlank word) := by
    obtain ⟨tail, parts, -⟩ := Text.trimEnd_append_blanks word
    exact (parts ▸ steady).left
  unfold Filling.add
  dsimp only
  rw [Text.cells_total short, Text.cells_total steady]
  split
  next room => exact holds.extend inked room rfl rfl rfl
  next full =>
    split
    next long =>
      have long : width < total (trimEnd isBlank word) := by simpa using long
      have filled : 0 < total word := Nat.lt_of_lt_of_le (Nat.zero_lt_of_lt long) (total_trimEnd word)
      obtain ⟨flat, some, pieces⟩ := chopCells_pieces steady wide filled
      have last : IsSteady ((chopCells width word).getLastD []) := by
        intro c member
        refine steady c ?_
        rw [← flat]
        refine List.mem_flatten.mpr ⟨_, ?_, member⟩
        rw [List.getLastD_eq_getLast?, List.getLast?_eq_some_getLast some]
        exact List.getLast_mem some
      refine ⟨lines ++ chopCells width word, holds.append ?_ ?_ rfl some ?_, ?_⟩
      · exact congrArg (filling.place + List.length ·) flat.symm
      · exact Text.cells_total last
      · intro piece member
        exact ⟨(pieces piece member).1, (total_trimEnd piece).trans (pieces piece member).2⟩
      · rw [List.flatten_append]
        exact congrArg _ flat
    next fits =>
      have fits : total (trimEnd isBlank word) ≤ width := by simpa using fits
      have held : word ≠ [] := by
        obtain ⟨c, member, -⟩ := inked
        exact List.ne_nil_of_mem member
      refine ⟨lines ++ [word], holds.append ?_ rfl rfl (List.cons_ne_nil _ _) ?_, by simp⟩
      · simp
      · exact List.forall_mem_singleton.mpr ⟨held, fits⟩

/-- A filling that takes words holds all of them. -/
theorem Filling.Holds.words {filling : Filling} {lines : List (List Char)} (holds : filling.Holds width lines)
    {words : List (List Char)} (steady : IsSteady words.flatten) (inked : ∀ word ∈ words, ∃ c ∈ word, isBlank c = false)
    (wide : 2 ≤ width) :
    ∃ more, (words.foldl (Filling.add .fold width) filling).Holds width more ∧
      more.flatten = lines.flatten ++ words.flatten := by
  induction words generalizing filling lines with
  | nil => exact ⟨lines, holds, by simp⟩
  | cons word rest ih =>
    rw [List.flatten_cons] at steady
    obtain ⟨first, others⟩ := List.forall_mem_cons.mp inked
    obtain ⟨next, held, text⟩ := holds.add steady.left first wide
    obtain ⟨more, all, behind⟩ := ih held steady.right others
    exact ⟨more, all, by rw [behind, text, List.flatten_cons, List.append_assoc]⟩

/-- The lines of a steady text without line ends show all of it. -/
theorem visible_fillLines {text : List Char} (steady : IsSteady text) (wide : 2 ≤ width) :
    visible (fillLines .fold width text).flatten = visible text := by
  obtain ⟨blank | flat, inked⟩ := wordsWithin_words (Nat.lt_succ_self text.length)
  · have shows := @visible_fillLines_sublist width text
    rw [Text.visible_blank blank] at shows ⊢
    exact List.sublist_nil.mp shows
  · obtain ⟨lines, holds, same⟩ := (@Filling.holds_nil width).words (by rwa [flat]) inked wide
    rw [flat, List.flatten_nil, List.nil_append] at same
    unfold fillLines
    dsimp only
    rw [holds.breaks]
    cases lines with
    | nil =>
      obtain rfl : text = [] := same.symm
      rfl
    | cons first rest =>
      rw [← same, cutAt_lines (holds.held first List.mem_cons_self), Text.visible_flatten, List.flatMap_map,
        Text.visible_flatten]
      apply List.flatMap_congr
      intro line member
      have part : IsSteady line := fun c inside =>
        steady c (same ▸ List.mem_flatten.mpr ⟨line, member, inside⟩)
      exact visible_line part (holds.fits line member) (by omega)

private theorem steady_splitOn {separator : Char} {text part : List Char} (steady : IsSteady text)
    (member : part ∈ Text.splitOn separator text) : IsSteady part := by
  intro c inside
  have both := List.mem_flatten.mpr ⟨part, member, inside⟩
  rw [Text.splitOn_flatten] at both
  exact steady c (List.mem_filter.mp both).1

private theorem steady_expandTabs {line : List Char} (steady : IsSteady line) : IsSteady (expandTabs line) := by
  have parts : ∀ part ∈ Text.splitOn '\t' line, IsSteady part := fun part member => steady_splitOn steady member
  unfold expandTabs
  generalize Text.splitOn '\t' line = pieces at parts
  generalize 0 = column
  fun_induction joinColumns column pieces with
  | case1 => exact List.forall_mem_nil _
  | case2 column part => exact parts part List.mem_cons_self
  | case3 column part rest _ behind gap ih =>
    obtain ⟨first, others⟩ := List.forall_mem_cons.mp parts
    have gaps : IsSteady (blanks gap) := by
      intro c member
      rw [List.eq_of_mem_replicate member]
      decide
    exact (first.append gaps).append (ih others)

/-- The lines of a steady text show all of it. -/
theorem visible_wrap_steady {text : List Char} (steady : IsSteady text) (wide : 2 ≤ width) :
    visible (wrap .fold width text).flatten = visible text := by
  rw [visible_wrap, ← Text.visible_splitOn (show Text.isVisible '\n' = false from rfl) text, Text.visible_flatten]
  apply List.flatMap_congr
  intro line member
  rw [visible_fillLines (steady_expandTabs (steady_splitOn steady member)) wide, visible_expandTabs]

end Console

end ElasticEndpoint
