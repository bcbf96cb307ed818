import ElasticEndpoint.Yaml.Scalar.Quoted
import ElasticEndpoint.Proofs.TextRuns

/-!
Quoted texts read back as they are written. Between either pair of marks a text is read piece by piece: a character for
itself, a doubled apostrophe, an escape, spaces, and the places where a line was folded or broken.
-/

namespace ElasticEndpoint.Yaml

/-- Behind an opening mark, a written text stands for a content up to the closing mark with what comes after, wherever
it is read. -/
def Stands (double : Bool) (written content after : List Char) : Prop :=
  ∀ start place fuel, written.length < fuel →
    ∃ last, quotedFrom double start fuel ⟨written, place⟩ = .ok (⟨content, []⟩, ⟨after, last⟩)

theorem Cursor.skip_append (front rest : List Char) (place : Place) :
    Cursor.skip ⟨front ++ rest, place⟩ front.length = ⟨rest, front.foldl Place.after place⟩ := by
  simp [Cursor.skip]

private theorem takeWhile_class {belongs : Char → Bool} {front rest : List Char} (inside : ∀ c ∈ front, belongs c = true)
    (outside : ∀ c ∈ rest.head?, belongs c = false) : (front ++ rest).takeWhile belongs = front := by
  rw [List.takeWhile_append_of_pos inside]
  cases rest with
  | nil => simp
  | cons c rest => simp [outside c rfl]

theorem Cursor.span_append {belongs : Char → Bool} {front : List Char} (inside : ∀ c ∈ front, belongs c = true)
    (rest : List Char) (outside : ∀ c ∈ rest.head?, belongs c = false) (place : Place) :
    Cursor.span ⟨front ++ rest, place⟩ belongs = (front, ⟨rest, front.foldl Place.after place⟩) := by
  unfold Cursor.span
  rw [takeWhile_class inside outside]
  dsimp only
  rw [Cursor.skip_append]

namespace Stands

variable {double : Bool} {front text written content after : List Char}

theorem finished (piece : quotedPiece double written = .finished) (some : written ≠ []) :
    Stands double written [] written := by
  intro start place fuel enough
  obtain ⟨fuel, rfl⟩ : ∃ n, fuel = n + 1 := ⟨fuel - 1, by omega⟩
  have open_ : written.isEmpty = false := by simpa using some
  refine ⟨place, ?_⟩
  rw [quotedFrom]
  simp only [piece, open_, Bool.false_eq_true, if_false]

theorem chars (piece : quotedPiece double (front ++ written) = .chars text front.length) (some : front ≠ [])
    (rest : Stands double written content after) : Stands double (front ++ written) (text ++ content) after := by
  intro start place fuel enough
  have shorter := List.length_pos_iff.mpr some
  rw [List.length_append] at enough
  obtain ⟨fuel, rfl⟩ : ∃ n, fuel = n + 1 := ⟨fuel - 1, by omega⟩
  obtain ⟨last, read⟩ := rest start (front.foldl Place.after place) fuel (by omega)
  refine ⟨last, ?_⟩
  rw [quotedFrom]
  simp only [piece, Cursor.skip_append, read]
  rfl

theorem backslash (read : ∀ start place, ∃ next, escaped start ⟨front ++ written, place⟩ = .ok (⟨text, []⟩, ⟨written, next⟩))
    (rest : Stands true written content after) : Stands true ('\\' :: (front ++ written)) (text ++ content) after := by
  intro start place fuel enough
  rw [List.length_cons, List.length_append] at enough
  obtain ⟨fuel, rfl⟩ : ∃ n, fuel = n + 1 := ⟨fuel - 1, by omega⟩
  obtain ⟨next, escape⟩ := read start (place.after '\\')
  obtain ⟨last, read⟩ := rest start next fuel (by omega)
  refine ⟨last, ?_⟩
  have advance : Cursor.advance ⟨'\\' :: (front ++ written), place⟩ = ⟨front ++ written, place.after '\\'⟩ := rfl
  have piece : quotedPiece true ('\\' :: (front ++ written)) = .backslash := rfl
  rw [quotedFrom]
  simp only [piece, advance, escape, read, bind, Except.bind]
  rfl

theorem blank (piece : quotedPiece double (front ++ written) = .blank) (some : front ≠ [])
    (read : ∀ start place, ∃ next, quotedSpaces start ⟨front ++ written, place⟩ = .ok (text, ⟨written, next⟩))
    (rest : Stands double written content after) : Stands double (front ++ written) (text ++ content) after := by
  intro start place fuel enough
  have shorter := List.length_pos_iff.mpr some
  rw [List.length_append] at enough
  obtain ⟨fuel, rfl⟩ : ∃ n, fuel = n + 1 := ⟨fuel - 1, by omega⟩
  obtain ⟨next, spaces⟩ := read start place
  obtain ⟨last, read⟩ := rest start next fuel (by omega)
  refine ⟨last, ?_⟩
  rw [quotedFrom]
  simp only [piece, spaces, read, bind, Except.bind]
  rfl

theorem solid_cons (solid : endsToken written.head? = false) : ∃ c rest, written = c :: rest ∧ isBreak c = false := by
  cases written with
  | nil => simp [endsToken] at solid
  | cons c rest =>
    simp only [List.head?_cons, endsToken, Bool.or_eq_false_iff] at solid
    exact ⟨c, rest, rfl, solid.1.1⟩

private theorem span_spaces (blanks : List Char) (blank : ∀ c ∈ blanks, c = ' ') (solid : endsToken written.head? = false)
    (place : Place) : Cursor.span ⟨blanks ++ written, place⟩ (fun c => c == ' ' || c == '\t') =
      (blanks, ⟨written, blanks.foldl Place.after place⟩) := by
  apply Cursor.span_append
  · intro c mem
    simp [blank c mem]
  · intro c first
    simp only [Option.mem_def.mp first, endsToken, Bool.or_eq_false_iff] at solid
    simp only [solid.1.2, solid.2, Bool.or_self]

/-- Spaces inside a line are kept. -/
theorem spaces (count : Nat) (solid : endsToken written.head? = false) (rest : Stands double written content after) :
    Stands double (List.replicate count ' ' ++ written) (List.replicate count ' ' ++ content) after := by
  obtain rfl | some := Nat.eq_zero_or_pos count
  · exact rest
  refine blank ?_ ?_ ?_ rest
  · obtain ⟨count, rfl⟩ : ∃ n, count = n + 1 := ⟨count - 1, by omega⟩
    rfl
  · simp [Nat.ne_of_gt some]
  · intro start place
    have run := span_spaces (List.replicate count ' ') (fun _ => List.eq_of_mem_replicate) solid place
    obtain ⟨c, rest, rfl, unbroken⟩ := solid_cons solid
    refine ⟨(List.replicate count ' ').foldl Place.after place, ?_⟩
    unfold quotedSpaces
    rw [run]
    simp only [Cursor.peek, List.head?_cons, unbroken, Bool.false_eq_true, if_false]

/-- Further line breaks in a text, each for itself, and the indentation of the next line. -/
theorem quotedBreaks_folded (count : Nat) (solid : endsToken written.head? = false) (start place : Place) (fuel : Nat)
    (enough : count < fuel) : ∃ next, quotedBreaks start fuel ⟨List.replicate count '\n' ++ (foldIndent ++ written), place⟩ =
      .ok (List.replicate count '\n', ⟨written, next⟩) := by
  induction count generalizing place fuel with
  | zero =>
    obtain ⟨fuel, rfl⟩ : ∃ n, fuel = n + 1 := ⟨fuel - 1, by omega⟩
    have run := span_spaces foldIndent (by simp [foldIndent]) solid place
    have marker : Cursor.atDocumentMarker ⟨foldIndent ++ written, place⟩ = false := rfl
    obtain ⟨c, rest, rfl, unbroken⟩ := solid_cons solid
    refine ⟨foldIndent.foldl Place.after place, ?_⟩
    rw [quotedBreaks]
    simp only [List.replicate_zero, List.nil_append, marker, Cursor.skipWhile, run, Cursor.peek, List.head?_cons,
      Option.any_some, unbroken, Bool.false_eq_true, if_false]
  | succ count ih =>
    obtain ⟨fuel, rfl⟩ : ∃ n, fuel = n + 1 := ⟨fuel - 1, by omega⟩
    obtain ⟨next, read⟩ := ih (place.after '\n') fuel (by omega)
    have line (rest : List Char) : Cursor.atDocumentMarker ⟨'\n' :: rest, place⟩ = false ∧
        Cursor.skipWhile ⟨'\n' :: rest, place⟩ (fun c => c == ' ' || c == '\t') = ⟨'\n' :: rest, place⟩ ∧
        Cursor.lineBreak ⟨'\n' :: rest, place⟩ = (['\n'], ⟨rest, place.after '\n'⟩) := ⟨rfl, rfl, rfl⟩
    refine ⟨next, ?_⟩
    rw [quotedBreaks, List.replicate_succ, List.cons_append]
    simp only [line, Cursor.peek, List.head?_cons, Option.any_some, read]
    rfl

/-- A line break that begins with a line feed stands for the line feeds behind it, or for a space without any. -/
theorem breaks (count : Nat) (solid : endsToken written.head? = false) (rest : Stands double written content after) :
    Stands double ('\n' :: List.replicate count '\n' ++ foldIndent ++ written)
      ((if count = 0 then [' '] else List.replicate count '\n') ++ content) after := by
  refine blank rfl (by simp) ?_ rest
  intro start place
  have line (rest : List Char) : Cursor.span ⟨'\n' :: rest, place⟩ (fun c => c == ' ' || c == '\t') = ([], ⟨'\n' :: rest, place⟩) ∧
      Cursor.lineBreak ⟨'\n' :: rest, place⟩ = (['\n'], ⟨rest, place.after '\n'⟩) := ⟨rfl, rfl⟩
  obtain ⟨next, read⟩ := quotedBreaks_folded count solid start (place.after '\n')
    ((List.replicate count '\n' ++ (foldIndent ++ written)).length + 1)
    (by simp only [List.length_append, List.length_replicate]; omega)
  refine ⟨next, ?_⟩
  unfold quotedSpaces
  simp only [List.cons_append, List.append_assoc, line, Cursor.peek, List.head?_cons, read, bind, Except.bind]
  obtain rfl | some := Nat.eq_zero_or_pos count
  · rfl
  · obtain ⟨count, rfl⟩ : ∃ n, count = n + 1 := ⟨count - 1, by omega⟩
    rfl

/-- A line folded behind a backslash goes on as if it had not ended. -/
theorem folded (solid : endsToken written.head? = false) (rest : Stands true written content after) :
    Stands true ('\\' :: '\n' :: foldIndent ++ written) content after := by
  have read : ∀ start place, ∃ next, escaped start ⟨'\n' :: foldIndent ++ written, place⟩ = .ok (⟨[], []⟩, ⟨written, next⟩) := by
    intro start place
    obtain ⟨next, read⟩ := quotedBreaks_folded 0 solid start (place.after '\n') ((foldIndent ++ written).length + 1) (by simp)
    refine ⟨next, ?_⟩
    have line : Cursor.lineBreak ⟨'\n' :: foldIndent ++ written, place⟩ = (['\n'], ⟨foldIndent ++ written, place.after '\n'⟩) := rfl
    change (quotedBreaks start (_ + 1) (Cursor.lineBreak ⟨'\n' :: foldIndent ++ written, place⟩).2 >>=
      fun read => .ok (ScalarText.mk read.1 [], read.2)) = _
    rw [line]
    rw [List.replicate_zero, List.nil_append] at read
    simp only [read]
    rfl
  exact backslash read rest

end Stands

section

variable {c : Char}

private theorem namedEscape?_lookup {pairs : List (Nat × Char)} {letter : Char} (found : pairs.lookup c.toNat = some letter)
    (named : ∀ entry ∈ pairs, namedEscape? entry.2 = some (Char.ofNat entry.1)) : namedEscape? letter = some c := by
  obtain ⟨before, behind, rfl, -⟩ := List.lookup_eq_some_iff.mp found
  rw [← Char.ofNat_toNat c]
  exact named (c.toNat, letter) (by simp)

private theorem namedEscape?_letter {letter : Char} (short : escapeLetter? c = some letter) : namedEscape? letter = some c :=
  namedEscape?_lookup short (by decide)

private theorem length_upperHex {width n : Nat} (some : 0 < width) (fits : n < Nat.pow 16 width) : (upperHex width n).length = width := by
  have short := (Nat.length_toDigits_le_iff (b := 16) (by decide) some).mpr fits
  simp only [upperHex, Text.hexadecimal, List.length_map, List.length_append, List.length_replicate]
  omega

private theorem hexNumber_toDigits (n : Nat) : hexNumber ((Nat.toDigits 16 n).map Char.toUpper) = n := by
  induction n using Nat.strongRecOn with
  | ind n ih =>
    have digit : ∀ d < 16, (hexDigit? (Nat.digitChar d).toUpper).getD 0 = d := by decide
    rw [Nat.toDigits_eq_if (by decide)]
    split
    next small => simp [hexNumber, digit n small]
    next large =>
      have front := ih (n / 16) (by omega)
      unfold hexNumber at front ⊢
      rw [List.map_append, List.foldl_append, front]
      simp [digit (n % 16) (by omega)]
      omega

private theorem hexNumber_upperHex (width n : Nat) : hexNumber (upperHex width n) = n := by
  have zeros (count : Nat) : hexNumber (List.replicate count '0') = 0 := by
    induction count with
    | zero => rfl
    | succ count ih => exact ih
  have digits := hexNumber_toDigits n
  simp only [upperHex, Text.hexadecimal, List.map_append, List.map_replicate]
  unfold hexNumber at zeros digits ⊢
  rw [List.foldl_append]
  exact (congrArg (fun start => List.foldl _ start _) (zeros _)).trans digits

private theorem hexDigit?_toDigits (n : Nat) : ∀ d ∈ (Nat.toDigits 16 n).map Char.toUpper, (hexDigit? d).isNone = false := by
  induction n using Nat.strongRecOn with
  | ind n ih =>
    have digit : ∀ d < 16, (hexDigit? (Nat.digitChar d).toUpper).isNone = false := by decide
    rw [Nat.toDigits_eq_if (by decide)]
    split
    next small =>
      intro d mem
      simp only [List.map_cons, List.map_nil, List.mem_singleton] at mem
      rw [mem, digit n small]
    next large =>
      intro d mem
      rw [List.map_append, List.mem_append] at mem
      obtain front | last := mem
      · exact ih (n / 16) (by omega) d front
      · simp only [List.map_cons, List.map_nil, List.mem_singleton] at last
        rw [last, digit _ (by omega)]

theorem hexDigit?_upperHex (width n : Nat) : ∀ d ∈ upperHex width n, (hexDigit? d).isNone = false := by
  intro d mem
  simp only [upperHex, Text.hexadecimal, List.map_append, List.map_replicate, List.mem_append] at mem
  obtain zero | digit := mem
  · rw [List.eq_of_mem_replicate zero]
    decide
  · exact hexDigit?_toDigits n d digit

private theorem codePoint_toNat (c : Char) : codePoint c.toNat = .ok ⟨[c], []⟩ := by
  have scalar : c.toNat < 0xD800 ∨ 0xDFFF < c.toNat ∧ c.toNat < 0x110000 := c.valid
  have whole : Text.isHalf c.toNat = false := by
    simp only [Text.isHalf, Bool.and_eq_false_iff, decide_eq_false_iff_not]
    omega
  unfold codePoint
  rw [if_neg (by omega), if_neg (by omega)]
  simp [Text.pointChar, whole]

private theorem escaped_named {letter : Char} (named : namedEscape? letter = some c) (written : List Char) (start place : Place) :
    ∃ next, escaped start ⟨letter :: written, place⟩ = .ok (⟨[c], []⟩, ⟨written, next⟩) := by
  refine ⟨place.after letter, ?_⟩
  unfold escaped
  simp only [Cursor.peek, List.head?_cons, named]
  rfl

private theorem escaped_hex {letter : Char} {length : Nat} (unnamed : namedEscape? letter = none)
    (hex : escapeLength? letter = some length) (some : 0 < length) (fits : c.toNat < Nat.pow 16 length) (written : List Char)
    (start place : Place) :
    ∃ next, escaped start ⟨letter :: (upperHex length c.toNat ++ written), place⟩ = .ok (⟨[c], []⟩, ⟨written, next⟩) := by
  have size := length_upperHex some fits
  have digits : (upperHex length c.toNat ++ written).take length = upperHex length c.toNat := List.take_left' size
  have known : (upperHex length c.toNat).find? (fun d => (hexDigit? d).isNone) = none := by
    rw [List.find?_eq_none]
    intro d mem
    simp [hexDigit?_upperHex length c.toNat d mem]
  have skip := Cursor.skip_append (upperHex length c.toNat) written (place.after letter)
  rw [size] at skip
  refine ⟨(upperHex length c.toNat).foldl Place.after (place.after letter), ?_⟩
  have advance : Cursor.advance ⟨letter :: (upperHex length c.toNat ++ written), place⟩ =
      ⟨upperHex length c.toNat ++ written, place.after letter⟩ := rfl
  unfold escaped
  simp only [Cursor.peek, List.head?_cons, unnamed, hex, advance, digits, known, size, Nat.lt_irrefl, if_false,
    hexNumber_upperHex, codePoint_toNat, skip, bind, Except.bind]
  rfl

/-- The escape of a character is read as the character. -/
theorem escaped_escape {body : List Char} (needs : escape? c = some ('\\' :: body)) (written : List Char)
    (start place : Place) : ∃ next, escaped start ⟨body ++ written, place⟩ = .ok (⟨[c], []⟩, ⟨written, next⟩) := by
  have scalar : c.toNat < 0xD800 ∨ 0xDFFF < c.toNat ∧ c.toNat < 0x110000 := c.valid
  unfold escape? at needs
  dsimp only at needs
  split at needs
  · cases needs
  · cases letter : escapeLetter? c with
    | some short =>
      rw [letter] at needs
      cases needs
      exact escaped_named (namedEscape?_letter letter) written start place
    | none =>
      rw [letter] at needs
      dsimp only at needs
      split at needs
      next small =>
        cases needs
        exact escaped_hex rfl rfl (by decide) (show c.toNat < 0x100 by omega) written start place
      next =>
        split at needs
        next middle =>
          cases needs
          exact escaped_hex rfl rfl (by decide) (show c.toNat < 0x10000 by omega) written start place
        next =>
          cases needs
          exact escaped_hex rfl rfl (by decide) (show c.toNat < 0x100000000 by omega) written start place

theorem endsToken_printable (visible : 0x21 ≤ c.toNat) (ascii : c.toNat ≤ 0x7E) : endsToken (some c) = false := by
  have other (d : Char) (outside : d.toNat < 0x21 ∨ 0x7E < d.toNat) : (c == d) = false := by
    apply beq_false_of_ne
    rintro rfl
    omega
  simp only [endsToken, isBreak, other '\n' (by decide), other '\r' (by decide), other (Char.ofNat 0x85) (by decide),
    other (Char.ofNat 0x2028) (by decide), other (Char.ofNat 0x2029) (by decide), other ' ' (by decide),
    other '\t' (by decide), Bool.or_self]

/-- A character without an escape is printable and none of the two marks of a double-quoted text. -/
theorem unescaped (plain : escape? c = none) : 0x20 ≤ c.toNat ∧ c.toNat ≤ 0x7E ∧ c ≠ '\x22' ∧ c ≠ '\\' := by
  unfold escape? at plain
  dsimp only at plain
  split at plain
  next inside => simpa [and_assoc] using inside
  next => cases plain

private theorem unescaped_solid (plain : escape? c = none) (solid : c ≠ ' ') : endsToken (some c) = false := by
  obtain ⟨low, high, -, -⟩ := unescaped plain
  have : c.toNat ≠ 0x20 := fun same => solid (Char.toNat_inj.mp same)
  exact endsToken_printable (by omega) high

private theorem quotedPiece_unescaped (plain : escape? c = none) (solid : c ≠ ' ') (rest : List Char) :
    quotedPiece true (c :: rest) = .chars [c] 1 := by
  have token := unescaped_solid plain solid
  obtain ⟨-, -, quote, backslash⟩ := unescaped plain
  simp only [endsToken, Bool.or_eq_false_iff] at token
  unfold quotedPiece
  split
  next same => cases same
  next same =>
    cases same
    rfl
  next same =>
    cases same
    exact absurd rfl quote
  next same =>
    cases same
    exact absurd rfl backslash
  next same =>
    cases same
    simp [token]

end

private theorem escape?_backslash {c : Char} {escape : List Char} (needs : escape? c = some escape) :
    ∃ body, escape = '\\' :: body := by
  unfold escape? at needs
  dsimp only at needs
  split at needs
  · cases needs
  · exact ⟨_, (Option.some.inj needs).symm⟩

namespace Stands

variable {c : Char} {written content after : List Char}

/-- A character that needs no escape stands for itself. -/
theorem unescaped (plain : escape? c = none) (solid : c ≠ ' ') (rest : Stands true written content after) :
    Stands true (c :: written) (c :: content) after :=
  @chars true [c] [c] written content after (quotedPiece_unescaped plain solid written) (by simp) rest

theorem escape {escape : List Char} (needs : escape? c = some escape) (rest : Stands true written content after) :
    Stands true (escape ++ written) (c :: content) after := by
  obtain ⟨body, rfl⟩ := escape?_backslash needs
  exact backslash (escaped_escape needs written) rest

/-- A line is folded before a character, which a backslash keeps if it is a space. -/
theorem doubleFold (plain : escape? c = none) (rest : Stands true written content after) :
    Stands true (doubleFold (some c) ++ c :: written) (c :: content) after := by
  by_cases space : c = ' '
  · subst space
    have kept : Stands true ('\\' :: ([' '] ++ written)) ([' '] ++ content) after :=
      backslash (escaped_named rfl written) rest
    exact folded rfl kept
  · have solid := unescaped_solid plain space
    have fold : Yaml.doubleFold (some c) = '\\' :: '\n' :: foldIndent := by
      simp [Yaml.doubleFold, space]
    rw [fold]
    exact folded solid (unescaped plain space rest)

end Stands

private theorem doubleFrom_near {c : Char} (plain : escape? c = none) (first fresh : Bool) {column : Nat} (near : column ≤ lineWidth)
    (rest : List Char) : doubleFrom first fresh column (c :: rest) = c :: doubleFrom false false (column + 1) rest := by
  rw [doubleFrom]
  simp only [plain, decide_eq_false (Nat.not_lt.mpr near), Bool.and_false, Bool.false_eq_true, if_false]

private theorem doubleFoldColumn_near (next : Option Char) : doubleFoldColumn next ≤ lineWidth := by
  unfold doubleFoldColumn
  split <;> decide

private theorem doubleFrom_backslash {c : Char} {escape : List Char} (needs : escape? c = some escape) (first fresh : Bool) (column : Nat)
    (rest : List Char) : ∃ more, doubleFrom first fresh column (c :: rest) = '\\' :: more := by
  obtain ⟨body, rfl⟩ := escape?_backslash needs
  rw [doubleFrom]
  simp only [needs]
  split
  · exact ⟨_, rfl⟩
  · exact ⟨_, rfl⟩

/-- Behind an escape a line may be folded, before an escape or before a character that stands for itself. -/
theorem stands_folded (rest behind : List Char)
    (following : Stands true (doubleFrom false true (doubleFoldColumn rest.head?) rest ++ '\x22' :: behind) rest ('\x22' :: behind))
    (further : ∀ d more, rest = d :: more →
      Stands true (doubleFrom false false (doubleFoldColumn (some d) + 1) more ++ '\x22' :: behind) more ('\x22' :: behind)) :
    Stands true (doubleFold rest.head? ++ (doubleFrom false true (doubleFoldColumn rest.head?) rest ++ '\x22' :: behind)) rest
      ('\x22' :: behind) := by
  match rest with
  | [] => exact Stands.folded rfl (Stands.finished rfl (by simp))
  | d :: more =>
    cases next : escape? d with
    | some escape =>
      have solid : d ≠ ' ' := by
        rintro rfl
        cases next
      have fold : doubleFold (some d) = '\\' :: '\n' :: foldIndent := by simp [doubleFold, solid]
      have begins : endsToken (doubleFrom false true (doubleFoldColumn (some d)) (d :: more) ++ '\x22' :: behind).head? = false := by
        obtain ⟨body, shape⟩ := doubleFrom_backslash next false true (doubleFoldColumn (some d)) more
        rw [shape]
        rfl
      rw [List.head?_cons, fold]
      exact Stands.folded begins following
    | none =>
      rw [List.head?_cons, doubleFrom_near next false true (doubleFoldColumn_near _)]
      exact Stands.doubleFold next (further d more rfl)

/-- A text between double quotes is read as it was written, with the spaces before it. -/
theorem stands_doubleFrom (text behind : List Char) (first fresh : Bool) (column blanks : Nat) :
    Stands true (List.replicate blanks ' ' ++ (doubleFrom first fresh column text ++ '\x22' :: behind))
      (List.replicate blanks ' ' ++ text) ('\x22' :: behind) := by
  match text with
  | [] => exact Stands.spaces blanks rfl (Stands.finished rfl (by simp))
  | c :: rest =>
    have following (first fresh : Bool) (column : Nat) := stands_doubleFrom rest behind first fresh column 0
    simp only [List.replicate_zero, List.nil_append] at following
    cases needs : escape? c with
    | some escape =>
      -- The character behind the fold is written without a look at the column, so the text behind it is needed too.
      have folds := stands_folded rest behind (following false true _) fun d more shape => by
        have shorter : more.length < (c :: rest).length := by simp only [shape, List.length_cons]; omega
        have after := stands_doubleFrom more behind false false (doubleFoldColumn (some d) + 1) 0
        simpa using after
      have begins (written : List Char) : endsToken (escape ++ written).head? = false := by
        obtain ⟨body, rfl⟩ := escape?_backslash needs
        rfl
      rw [doubleFrom]
      simp only [needs]
      split
      · rw [List.append_assoc, List.append_assoc]
        exact Stands.spaces blanks (begins _) (Stands.escape needs folds)
      · rw [List.append_assoc]
        exact Stands.spaces blanks (begins _) (Stands.escape needs (following _ _ _))
    | none =>
      rw [doubleFrom]
      simp only [needs]
      split
      · rw [List.append_assoc]
        exact Stands.spaces blanks rfl (Stands.doubleFold needs (following _ _ _))
      · by_cases space : c = ' '
        · subst space
          -- Spaces are one piece with those before them, so they are counted until another character follows.
          have more := stands_doubleFrom rest behind false false (column + 1) (blanks + 1)
          rw [List.replicate_succ', List.append_assoc, List.append_assoc] at more
          exact more
        · exact Stands.spaces blanks (unescaped_solid needs space) (Stands.unescaped needs space (following _ _ _))
termination_by text.length

/-- The text of ordinary runs has no other line break than a line feed, and every other character is printable. -/
def Ordinary (runs : List Run) : Prop := ∀ run ∈ runs, ∀ c ∈ run.text, isOrdinary c = true

theorem ordinary_solid {c : Char} (ordinary : isOrdinary c = true) (space : c ≠ ' ') (unbroken : isBreak c = false) :
    endsToken (some c) = false := by
  have printed : 0x20 ≤ c.toNat ∧ c.toNat ≤ 0x7E := by
    have line : c ≠ '\n' := by
      rintro rfl
      cases unbroken
    simpa [isOrdinary, line] using ordinary
  have : c.toNat ≠ 0x20 := fun same => space (Char.toNat_inj.mp same)
  exact endsToken_printable (by omega) printed.2

private theorem ordinary_break {c : Char} (ordinary : isOrdinary c = true) (break_ : isBreak c = true) : c = '\n' := by
  refine Decidable.byContradiction fun line => ?_
  have printed : 0x20 ≤ c.toNat ∧ c.toNat ≤ 0x7E := by simpa [isOrdinary, line] using ordinary
  have : c.toNat ≠ 0x20 := fun same => by
    obtain rfl : c = ' ' := Char.toNat_inj.mp same
    cases break_
  have token := endsToken_printable (c := c) (by omega) printed.2
  simp [endsToken, break_] at token

private theorem quotedPiece_single {c : Char} (solid : endsToken (some c) = false) (quote : c ≠ '\x27') (rest : List Char) :
    quotedPiece false (c :: rest) = .chars [c] 1 := by
  simp only [endsToken, Bool.or_eq_false_iff] at solid
  unfold quotedPiece
  split
  next same => cases same
  next same =>
    cases same
    exact absurd rfl quote
  next same =>
    cases same
    rfl
  next same =>
    cases same
    rfl
  next same =>
    cases same
    simp [solid]

theorem Stands.doubleApostrophes {text written content after : List Char} (solid : ∀ c ∈ text, endsToken (some c) = false)
    (rest : Stands false written content after) : Stands false (doubleApostrophes text ++ written) (text ++ content) after := by
  induction text with
  | nil => exact rest
  | cons c text ih =>
    have following := ih fun d mem => solid d (List.mem_cons_of_mem c mem)
    have shape : Yaml.doubleApostrophes (c :: text) = (if c == '\x27' then [c, c] else [c]) ++ Yaml.doubleApostrophes text := by
      simp [Yaml.doubleApostrophes]
    rw [shape, List.append_assoc]
    split
    next quote =>
      obtain rfl := beq_iff_eq.mp quote
      exact @Stands.chars false ['\x27', '\x27'] ['\x27'] _ _ after rfl (by simp) following
    next other =>
      have piece := quotedPiece_single (solid c List.mem_cons_self) (by simpa using other)
        (Yaml.doubleApostrophes text ++ written)
      exact @Stands.chars false [c] [c] _ _ after piece (by simp) following

/-- Before characters that are no blanks, or at the end, what is written begins with no blank. -/
theorem writeRuns_solid {runs : List Run} (regular : Run.Regular runs) (ordinary : Ordinary runs) (next : Run.BeforeSolid runs)
    (first : Bool) (column : Nat) (behind : List Char) :
    endsToken (writeRuns doubleApostrophes first column runs ++ '\x27' :: behind).head? = false := by
  cases regular with
  | nil => rfl
  | spaces => obtain ⟨_, same⟩ := next _ rfl; cases same
  | breaks => obtain ⟨_, same⟩ := next _ rfl; cases same
  | @solid text _ some solid _ more =>
    obtain ⟨c, rest, rfl⟩ := List.exists_cons_of_ne_nil some
    obtain ⟨space, unbroken⟩ := solid c List.mem_cons_self
    have token := ordinary_solid (ordinary _ List.mem_cons_self c List.mem_cons_self) space unbroken
    by_cases quote : c = '\x27'
    · subst quote
      rfl
    · have shape : doubleApostrophes (c :: rest) = c :: doubleApostrophes rest := by simp [doubleApostrophes, quote]
      rw [writeRuns, shape]
      exact token

/-- A text between apostrophes is read as it was written. -/
theorem stands_writeRuns {runs : List Run} (regular : Run.Regular runs) (ordinary : Ordinary runs) (first : Bool)
    (column : Nat) {behind : List Char} (closed : behind.head? ≠ some '\x27') :
    Stands false (writeRuns doubleApostrophes first column runs ++ '\x27' :: behind) (runs.flatMap Run.text)
      ('\x27' :: behind) := by
  induction regular generalizing first column with
  | nil =>
    apply Stands.finished
    · simp [quotedPiece, writeRuns, closed]
    · simp [writeRuns]
  | @solid text rest some solid _ more ih =>
    have others : Ordinary rest := fun run mem => ordinary run (List.mem_cons_of_mem _ mem)
    have tokens : ∀ c ∈ text, endsToken (.some c) = false := by
      intro c mem
      obtain ⟨space, unbroken⟩ := solid c mem
      exact ordinary_solid (ordinary _ List.mem_cons_self c mem) space unbroken
    rw [writeRuns, List.append_assoc]
    exact Stands.doubleApostrophes tokens (ih others _ _)
  | @spaces count rest some next more ih =>
    have others : Ordinary rest := fun run mem => ordinary run (List.mem_cons_of_mem _ mem)
    have begins := writeRuns_solid more others next
    rw [writeRuns]
    split
    next fold =>
      obtain rfl : count = 1 := by simp_all
      have folded := Stands.breaks 0 (begins false 2 behind) (ih others false 2)
      exact folded
    next =>
      rw [List.append_assoc]
      exact Stands.spaces count (begins _ _ _) (ih others _ _)
  | @breaks text rest some breaks next more ih =>
    have others : Ordinary rest := fun run mem => ordinary run (List.mem_cons_of_mem _ mem)
    have begins := writeRuns_solid more others next
    have lines : text = List.replicate text.length '\n' := by
      rw [List.eq_replicate_iff]
      exact ⟨rfl, fun c mem => ordinary_break (ordinary _ List.mem_cons_self c mem) (breaks c mem)⟩
    have count := List.length_pos_iff.mpr some
    have first : text.head? = .some '\n' := by
      obtain ⟨c, more, rfl⟩ := List.exists_cons_of_ne_nil some
      rw [ordinary_break (ordinary _ List.mem_cons_self c List.mem_cons_self) (breaks c List.mem_cons_self)]
      rfl
    have written : writtenBreaks text = '\n' :: List.replicate text.length '\n' ++ foldIndent := by
      rw [← lines]
      simp [writtenBreaks, first]
    have broken := Stands.breaks text.length (begins false 2 behind) (ih others false 2)
    rw [if_neg (by omega), ← written, ← lines] at broken
    rw [writeRuns, List.append_assoc]
    exact broken

theorem Stands.scalar {double : Bool} {mark close : Char} {written content behind : List Char}
    (stands : Stands double written content (close :: behind)) (place : Place) :
    ∃ last, quotedScalar double ⟨mark :: written, place⟩ = .ok (⟨content, []⟩, ⟨behind, last⟩) := by
  obtain ⟨last, read⟩ := stands place (place.after mark) ((mark :: written).length + 1)
    (by simp only [List.length_cons]; omega)
  have advance : Cursor.advance ⟨mark :: written, place⟩ = ⟨written, place.after mark⟩ := rfl
  refine ⟨last.after close, ?_⟩
  unfold quotedScalar
  simp only [advance, read, bind, Except.bind]
  rfl

theorem ordinary_ofText {text : List Char} (ordinary : text.all isOrdinary = true) : Ordinary (Run.ofText text) := by
  intro run mem c inside
  have whole : c ∈ (Run.ofText text).flatMap Run.text := List.mem_flatMap.mpr ⟨run, mem, inside⟩
  rw [Run.text_ofText] at whole
  exact List.all_eq_true.mp ordinary c whole

/-- Whether a text begins with an indicator. -/
def startsMarked : List Char → Bool
  | c :: rest => startsIndicator c rest.head?
  | [] => false

/-- Whether a text can be written without quotation marks. -/
def fitsPlain (text : List Char) : Bool :=
  (Tag.ofPlain text == .str && !text.isEmpty) &&
    !([text.head?, text.getLast?].any fun c => c.any fun c => c == ' ' || isBreak c) &&
    !hasNeighbours isBreak (· == ' ') text && !hasNeighbours (· == ' ') isBreak text && !!text.all isOrdinary &&
    !text.any isBreak &&
    !((['-', '-', '-'].isPrefixOf text || ['.', '.', '.'].isPrefixOf text) || holdsIndicator text || startsMarked text)

/-- Whether a text can be written between apostrophes. -/
def fitsSingle (text : List Char) : Bool :=
  !hasNeighbours isBreak (· == ' ') text && !hasNeighbours (· == ' ') isBreak text && !!text.all isOrdinary

private theorem styleOf_eq (text : List Char) :
    styleOf text = if fitsPlain text then .plain else if fitsSingle text then .single else .double := rfl

section

variable {text : List Char}

theorem styleOf_plain (style : styleOf text = .plain) : fitsPlain text = true := by
  rw [styleOf_eq] at style
  split at style
  · assumption
  · split at style <;> cases style

theorem styleOf_single (style : styleOf text = .single) : Run.Regular (Run.ofText text) ∧ Ordinary (Run.ofText text) := by
  rw [styleOf_eq] at style
  split at style
  · cases style
  · split at style
    next fits =>
      simp only [fitsSingle, Bool.not_not, Bool.and_eq_true, Bool.not_eq_true'] at fits
      obtain ⟨⟨breakSpace, spaceBreak⟩, ordinary⟩ := fits
      exact ⟨Run.regular_ofText breakSpace spaceBreak, ordinary_ofText ordinary⟩
    · cases style

variable (column : Nat) (behind : List Char) (place : Place)

theorem quotedScalar_single (style : styleOf text = .single) (closed : behind.head? ≠ some '\x27') :
    ∃ last, quotedScalar false ⟨writeText column text ++ behind, place⟩ = .ok (⟨text, []⟩, ⟨behind, last⟩) := by
  obtain ⟨regular, ordinary⟩ := styleOf_single style
  have stands := stands_writeRuns regular ordinary true (column + 1) closed
  rw [Run.text_ofText] at stands
  unfold writeText
  rw [style]
  simp only [List.cons_append, List.append_assoc, List.nil_append]
  exact stands.scalar place

theorem quotedScalar_double (style : styleOf text = .double) :
    ∃ last, quotedScalar true ⟨writeText column text ++ behind, place⟩ = .ok (⟨text, []⟩, ⟨behind, last⟩) := by
  unfold writeText
  rw [style]
  simp only [List.cons_append, List.append_assoc, List.nil_append]
  exact (stands_doubleFrom text behind true true (column + 1) 0).scalar place

end

end ElasticEndpoint.Yaml
