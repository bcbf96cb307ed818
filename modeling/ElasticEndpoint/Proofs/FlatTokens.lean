import ElasticEndpoint.Yaml.Feed
import ElasticEndpoint.Proofs.PlainScalars

/-!
Tokens of flat mappings. Line by line a text of keys and scalars is turned into the tokens of one block mapping: the first
key opens it, and the end of the text closes it.
-/

namespace ElasticEndpoint.Yaml

private theorem blankOrEnd_of_endsToken {c : Option Char} (ends : endsToken c = true) : blankOrEnd c = true := by
  cases c with
  | none => rfl
  | some c =>
    simp only [endsToken, Bool.or_eq_true] at ends
    simp only [blankOrEnd, Option.all_some, Bool.or_eq_true]
    obtain (broken | space) | tab := ends
    · exact .inr broken
    · exact .inl (.inl (.inr space))
    · exact .inl (.inr tab)

namespace Scanner

/-- Where the blanks before a token end: its place is known, and nothing outdated is left. -/
structure Settles (s next : Scanner) : Prop where
  unmarked : s.cursor.peek ≠ some (Char.ofNat 0xFEFF)
  skipped : (skipBlanks (s.cursor.rest.length + 1) s).dropStaleKeys = .ok next
  flow : next.flow = 0
  inside : ¬((next.cursor.place.column : Int) < next.indent)

variable {s next : Scanner}

theorem Settles.unwind (settles : Settles s next) : next.unwind next.cursor.place.column = next := by
  unfold Scanner.unwind
  rw [settles.flow]
  unfold closeTo
  cases next.outer <;> simp [settles.inside]

theorem Settles.mark (settles : Settles s next) :
    (s.cursor.place.index == 0 && s.cursor.peek == some (Char.ofNat 0xFEFF)) = false := by
  simp [settles.unmarked]

/-- A plain scalar is found where no indicator and no marker of a document stands. -/
theorem fetch_plain (settles : Settles s next) {c : Char} {rest : List Char} (shape : next.cursor.rest = c :: rest)
    (solid : endsToken (some c) = false) (begins : startsMarked (c :: rest) = false)
    (unmarked : next.cursor.place.column ≠ 0 ∨ c ≠ '-' ∧ c ≠ '.') : s.fetch = next.fetchPlain := by
  have flow := settles.flow
  have peek : next.cursor.peek = some c := by rw [Cursor.peek, shape]; rfl
  have marker : (c == '-' && next.atMarker c) = false ∧ (c == '.' && next.atMarker c) = false := by
    obtain deep | ⟨dash, dot⟩ := unmarked
    · simp [atMarker, deep]
    · simp [dash, dot]
  unfold startsMarked startsIndicator at begins
  simp only [Bool.or_eq_false_iff, List.contains_cons, List.contains_nil] at begins
  obtain ⟨indicators, following⟩ := begins
  have second : next.cursor.peekAt 1 = rest.head? := by
    rw [Cursor.peekAt, shape]
    cases rest <;> rfl
  have closed : (c == '-' && endsToken rest.head?) = false ∧ (c == '?' && endsToken rest.head?) = false ∧
      (c == ':' && endsToken rest.head?) = false := by
    cases ends : endsToken rest.head? with
    | false => simp
    | true =>
      rw [blankOrEnd_of_endsToken ends] at following
      simpa [and_comm, and_left_comm, and_assoc] using following
  have plain : next.startsPlain c = true := by
    unfold startsPlain
    rw [second, flow, solid]
    simp only [List.contains_cons, List.contains_nil, indicators, Bool.or_false, Bool.false_or, beq_self_eq_true, Bool.true_and]
    cases ends : endsToken rest.head? with
    | false => cases c == '-' <;> cases c == '?' <;> cases c == ':' <;> rfl
    | true =>
      simp only [ends, Bool.and_true] at closed
      simp only [closed, Bool.or_self, Bool.not_false, Bool.true_or]
  unfold Scanner.fetch
  simp only [settles.mark, Bool.false_eq_true, if_false, settles.skipped, bind, Except.bind, settles.unwind, peek, marker, flow,
    indicators, second, closed, plain, Bool.false_and, bne_self_eq_false, Bool.false_or, if_true]

private theorem fetch_quoted (settles : Settles s next) {double : Bool} {rest : List Char}
    (shape : next.cursor.rest = (if double then '\x22' else '\x27') :: rest) : s.fetch = next.fetchQuoted double := by
  have peek : next.cursor.peek = some (if double then '\x22' else '\x27') := by rw [Cursor.peek, shape]; rfl
  unfold Scanner.fetch
  simp only [settles.mark, Bool.false_eq_true, if_false, settles.skipped, bind, Except.bind, settles.unwind, peek]
  cases double <;> rfl

private theorem fetch_value (settles : Settles s next) {rest : List Char} (shape : next.cursor.rest = ':' :: ' ' :: rest) :
    s.fetch = next.fetchValue := by
  have peek : next.cursor.peek = some ':' := by rw [Cursor.peek, shape]; rfl
  have second : next.cursor.peekAt 1 = some ' ' := by rw [Cursor.peekAt, shape]; rfl
  unfold Scanner.fetch
  simp only [settles.mark, Bool.false_eq_true, if_false, settles.skipped, bind, Except.bind, settles.unwind, peek, second,
    settles.flow]
  rfl

private theorem fetch_end (settles : Settles s next) (shape : next.cursor.rest = []) : s.fetch = next.fetchEnd := by
  have peek : next.cursor.peek = none := by rw [Cursor.peek, shape]; rfl
  unfold Scanner.fetch
  simp only [settles.mark, Bool.false_eq_true, if_false, settles.skipped, bind, Except.bind, settles.unwind, peek]

/-- A token or the end of the text stands here, and no blank and no comment before it. -/
def AtToken (rest : List Char) : Prop := ∀ c ∈ rest.head?, endsToken (some c) = false ∧ c ≠ '#'

private theorem skipBlanks_atToken {s : Scanner} (stands : AtToken s.cursor.rest) (fuel : Nat) : skipBlanks (fuel + 1) s = s := by
  obtain ⟨⟨rest, place⟩, flow, found, released, keyAllowed, keys, indent, outer, done⟩ := s
  cases rest with
  | nil => rfl
  | cons c rest =>
    obtain ⟨solid, comment⟩ := stands c rfl
    simp only [endsToken, Bool.or_eq_false_iff] at solid
    have cursor : Cursor.skipWhile ⟨c :: rest, place⟩ (· == ' ') = ⟨c :: rest, place⟩ := by
      simp [Cursor.skipWhile, Cursor.span, solid.1.2, Cursor.skip]
    have sign : (Cursor.peek ⟨c :: rest, place⟩ == some '#') = false := by simpa [Cursor.peek] using comment
    have unbroken : (Cursor.peek ⟨c :: rest, place⟩).any isBreak = false := solid.1.1
    unfold skipBlanks
    simp only [cursor, sign, Bool.false_eq_true, if_false, unbroken]

private theorem skipBlanks_space {s : Scanner} {rest : List Char} {place : Place} (shape : s.cursor = ⟨' ' :: rest, place⟩)
    (stands : AtToken rest) (fuel : Nat) : skipBlanks (fuel + 1) s = { s with cursor := ⟨rest, place.after ' '⟩ } := by
  have again := @skipBlanks_atToken { s with cursor := ⟨rest, place.after ' '⟩ } stands fuel
  rw [← again]
  unfold skipBlanks
  have cursor : s.cursor.skipWhile (· == ' ') = Cursor.skipWhile ⟨rest, place.after ' '⟩ (· == ' ') := by
    rw [shape]
    rfl
  simp only [cursor]

private theorem skipBlanks_break {s : Scanner} {rest : List Char} {place : Place} (shape : s.cursor = ⟨'\n' :: rest, place⟩)
    (stands : AtToken rest) (outside : s.flow = 0) (fuel : Nat) :
    skipBlanks (fuel + 2) s = { s with cursor := ⟨rest, place.after '\n'⟩, keyAllowed := true } := by
  obtain ⟨cursor, flow, found, released, keyAllowed, keys, indent, outer, done⟩ := s
  obtain rfl : cursor = ⟨'\n' :: rest, place⟩ := shape
  obtain rfl : flow = 0 := outside
  have again := @skipBlanks_atToken ⟨⟨rest, place.after '\n'⟩, 0, found, released, true, keys, indent, outer, done⟩ stands fuel
  cases keyAllowed <;> exact again

/-- The tokens found are released in turn, and what comes behind them has a number of turns. -/
def Yields (turns : Nat) (s : Scanner) (kinds : List TokenKind) : Prop :=
  ∀ fuel tokens, turns ≤ fuel → ∃ more, run none fuel tokens s = ⟨tokens.reverse ++ more, none⟩ ∧ more.map Token.kind = kinds

theorem Yields.ended (done : s.done = true) (empty : s.found = []) : Yields 1 s [] := by
  intro fuel tokens enough
  obtain ⟨fuel, rfl⟩ : ∃ n, fuel = n + 1 := ⟨fuel - 1, by omega⟩
  refine ⟨[], ?_, rfl⟩
  rw [run, List.append_nil]
  simp only [done, if_true, empty]

section

variable {turns : Nat} {kinds : List TokenKind}

theorem Yields.mono {more : Nat} (yields : Yields turns s kinds) (le : turns ≤ more) : Yields more s kinds :=
  fun fuel tokens enough => yields fuel tokens (Nat.le_trans le enough)

private theorem Yields.fetched (working : s.done = false) (empty : s.found = []) (found : s.fetch = .ok next)
    (rest : Yields turns next kinds) : Yields (turns + 1) s kinds := by
  intro fuel tokens enough
  obtain ⟨fuel, rfl⟩ : ∃ n, fuel = n + 1 := ⟨fuel - 1, by omega⟩
  rw [run]
  simp only [working, Bool.false_eq_true, if_false, empty, List.isEmpty_nil, if_true, fetchBefore, found]
  exact rest fuel tokens (by omega)

/-- While the first token found may still turn out to be a key, the next one is looked for. -/
theorem Yields.awaited (working : s.done = false) (some : s.found ≠ []) (fresh : s.dropStaleKeys = .ok s)
    (open_ : s.headMayBeKey = true) (found : s.fetch = .ok next) (rest : Yields turns next kinds) :
    Yields (turns + 1) s kinds := by
  intro fuel tokens enough
  obtain ⟨fuel, rfl⟩ : ∃ n, fuel = n + 1 := ⟨fuel - 1, by omega⟩
  have waits : s.found.isEmpty = false := by simpa using some
  rw [run]
  simp only [working, Bool.false_eq_true, if_false, waits, fresh, bind, Except.bind, pure, Except.pure, open_, fetchBefore, found]
  exact rest fuel tokens (by omega)

private theorem dropStaleKeys_none (keys : s.keys = []) : s.dropStaleKeys = .ok s := by
  obtain ⟨cursor, flow, found, released, keyAllowed, list, indent, outer, done⟩ := s
  obtain rfl : list = [] := keys
  rfl

/-- Without a possible key all the tokens found are released. -/
theorem Yields.released {tokens : List Token} (found : s.found = tokens) (keys : s.keys = [])
    (rest : Yields turns { s with found := [], released := s.released + tokens.length } kinds) :
    Yields (turns + tokens.length) s (tokens.map Token.kind ++ kinds) := by
  induction tokens generalizing s with
  | nil =>
    obtain ⟨cursor, flow, list, released, keyAllowed, keys, indent, outer, done⟩ := s
    obtain rfl : list = [] := found
    exact rest
  | cons token others ih =>
    intro fuel tokens enough
    rw [List.length_cons] at enough rest
    obtain ⟨fuel, rfl⟩ : ∃ n, fuel = n + 1 := ⟨fuel - 1, by omega⟩
    have behind := @ih { s with found := others, released := s.released + 1 } rfl keys
      (by simpa [Nat.add_assoc, Nat.add_comm 1] using rest)
    obtain ⟨more, runs, moreKinds⟩ := behind fuel (token :: tokens) (by omega)
    refine ⟨token :: more, ?_, by rw [List.map_cons, moreKinds]; rfl⟩
    have head : s.headMayBeKey = false := by simp [headMayBeKey, keys]
    have waiting : (if s.done then .ok (false, s) else if s.found.isEmpty then .ok (true, s) else do
        let s ← s.dropStaleKeys
        return (s.headMayBeKey, s) : Except Fault (Bool × Scanner)) = .ok (false, s) := by
      rw [dropStaleKeys_none keys, found]
      cases s.done <;> simp [bind, Except.bind, pure, Except.pure, head]
    rw [run, waiting]
    simp only [found]
    rw [runs, List.reverse_cons, List.append_assoc]
    rfl

end

end Scanner

/-- A character of the names of fields. -/
def isKeyChar (c : Char) : Bool := ('a' ≤ c && c ≤ 'z') || c == '_'

/-- A name that fits as a key on one line. -/
structure IsKeyText (key : List Char) : Prop where
  some : key ≠ []
  named : ∀ c ∈ key, isKeyChar c = true
  short : key.length ≤ 1024

theorem isKeyChar_range {c : Char} (named : isKeyChar c = true) : 0x5F ≤ c.toNat ∧ c.toNat ≤ 0x7A ∧ c.toNat ≠ 0x60 := by
  simp only [isKeyChar, Bool.or_eq_true, Bool.and_eq_true, decide_eq_true_eq, beq_iff_eq] at named
  obtain ⟨low, high⟩ | rfl := named
  · have low : 97 ≤ c.toNat := low
    have high : c.toNat ≤ 122 := high
    omega
  · decide

private theorem isKeyChar_solid {c : Char} (named : isKeyChar c = true) : endsToken (some c) = false := by
  have := isKeyChar_range named
  exact endsToken_printable (by omega) (by omega)

/-- A name is made of no other ASCII characters. -/
theorem isKeyChar_ne {c d : Char} (named : isKeyChar c = true) (foreign : d.toNat < 0x5F ∨ d.toNat = 0x60 ∨ 0x7A < d.toNat) :
    c ≠ d := by
  rintro rfl
  have := isKeyChar_range named
  omega

private theorem isKeyChar_begins {c : Char} (named : isKeyChar c = true) (rest : List Char) : startsMarked (c :: rest) = false := by
  have apart (d : Char) (foreign : d.toNat < 0x5F ∨ d.toNat = 0x60 ∨ 0x7A < d.toNat) : (c == d) = false :=
    beq_false_of_ne (isKeyChar_ne named foreign)
  unfold startsMarked startsIndicator
  simp only [List.contains_cons, List.contains_nil, Bool.or_false]
  simp [apart]

theorem IsKeyText.isWord {key : List Char} (isKey : IsKeyText key) : IsWord key where
  some := isKey.some
  solid c mem := isKeyChar_solid (isKey.named c mem)
  start head := isKeyChar_ne (isKey.named _ (List.mem_of_head? head)) (by decide) rfl
  stop last := isKeyChar_ne (isKey.named _ (List.mem_of_getLast? last)) (by decide) rfl

/-- What is read as a scalar behind a key, up to the end of its last line. -/
inductive IsScalar : Bool → List Char → List Char → Prop
  | plain {written content : List Char} (isPlain : IsPlain written content) : IsScalar true written content
  | quoted {written content rest : List Char} (double : Bool) (shape : written = (if double then '\x22' else '\x27') :: rest)
      (reads : ∀ behind place, ∃ last,
        quotedScalar double ⟨written ++ '\n' :: behind, place⟩ = .ok (⟨content, []⟩, ⟨'\n' :: behind, last⟩)) :
      IsScalar false written content

/-- A line of a flat mapping: a key, and a scalar as it is written and as it is read. -/
structure Line where
  key : List Char
  plain : Bool
  written : List Char
  content : List Char
  isKey : IsKeyText key
  isScalar : IsScalar plain written content

namespace Line

def text (line : Line) : List Char := line.key ++ ':' :: ' ' :: (line.written ++ ['\n'])

def kinds (line : Line) : List TokenKind :=
  [.key, .scalar true ⟨line.key, []⟩, .value, .scalar line.plain ⟨line.content, []⟩]

theorem begins (line : Line) (behind : List Char) : ∀ c ∈ (line.text ++ behind).head?, isKeyChar c = true := by
  obtain ⟨c, key, shape⟩ := List.exists_cons_of_ne_nil line.isKey.some
  intro d mem
  simp only [text, shape, List.cons_append, List.head?_cons, Option.mem_def, Option.some.injEq] at mem
  exact mem ▸ line.isKey.named c (shape ▸ List.mem_cons_self)

private theorem begins_lines (lines : List Line) : ∀ c ∈ (lines.flatMap text).head?, isKeyChar c = true := by
  cases lines with
  | nil => simp
  | cons line lines => exact line.begins (lines.flatMap text)

private theorem nextLine_lines (lines : List Line) : NextLine (lines.flatMap text) where
  solid c mem := isKeyChar_solid (begins_lines lines c mem)
  unmarked place := by
    have begins := begins_lines lines
    cases behind : lines.flatMap text with
    | nil => rfl
    | cons c rest =>
      rw [behind] at begins
      have named := begins c rfl
      have dash := (isKeyChar_ne named (d := '-') (by decide)).symm
      have dot := (isKeyChar_ne named (d := '.') (by decide)).symm
      simp [Cursor.atDocumentMarker, dash, dot]

private theorem length_lines (lines : List Line) : lines.length ≤ (lines.flatMap text).length := by
  induction lines with
  | nil => exact Nat.zero_le 0
  | cons line lines ih =>
    rw [List.flatMap_cons, List.length_append, List.length_cons]
    simp only [text, List.length_append, List.length_cons]
    omega

end Line

namespace Scanner

/-- Scanning between two entries, inside the mapping or before its first key. -/
def between (opened keyAllowed : Bool) (released : Nat) (cursor : Cursor) : Scanner :=
  { cursor := cursor
    keyAllowed := keyAllowed
    released := released
    indent := if opened then 0 else -1
    outer := if opened then [-1] else [] }

/-- A line begins: at the first column, or behind a line break that is not read yet. -/
inductive Ready (opened : Bool) (rest : List Char) : Scanner → Prop
  | here (released : Nat) {place : Place} (first : place.column = 0) :
      Ready opened rest (between opened true released ⟨rest, place⟩)
  | broken (released : Nat) (place : Place) : Ready opened rest (between opened false released ⟨'\n' :: rest, place⟩)

variable {s : Scanner} {rest : List Char} {opened : Bool}

private theorem Ready.working (ready : Ready opened rest s) : s.done = false ∧ s.found = [] := by
  cases ready <;> exact ⟨rfl, rfl⟩

theorem Ready.settles (ready : Ready opened rest s) (begins : ∀ c ∈ rest.head?, isKeyChar c = true) :
    ∃ place, place.column = 0 ∧ Settles s (between opened true s.released ⟨rest, place⟩) := by
  have stands : AtToken rest := fun c mem => ⟨isKeyChar_solid (begins c mem), isKeyChar_ne (begins c mem) (by decide)⟩
  have inside : ¬((0 : Int) < if opened then 0 else -1) := by cases opened <;> decide
  cases ready with
  | @here released place first =>
    refine ⟨place, first, ?_, ?_, rfl, ?_⟩
    · intro head
      exact isKeyChar_ne (begins _ head) (by decide) rfl
    · rw [@skipBlanks_atToken (between opened true released ⟨rest, place⟩) stands]
      rfl
    · change ¬((place.column : Int) < _)
      rw [first]
      exact inside
  | broken released place =>
    refine ⟨place.after '\n', rfl, ?_, ?_, rfl, inside⟩
    · simp [Cursor.peek, between]
    · have skipped := @skipBlanks_break (between opened false released ⟨'\n' :: rest, place⟩) rest place rfl stands rfl rest.length
      rw [show (between opened false released ⟨'\n' :: rest, place⟩).cursor.rest.length + 1 = rest.length + 2 from rfl, skipped]
      rfl

private theorem place_word {word : List Char} (solid : ∀ c ∈ word, endsToken (some c) = false) (place : Place) :
    (word.foldl Place.after place).line = place.line ∧ (word.foldl Place.after place).index = place.index + word.length := by
  induction word generalizing place with
  | nil => exact ⟨rfl, rfl⟩
  | cons c word ih =>
    have unbroken : isBreak c = false := by
      have token := solid c List.mem_cons_self
      simp only [endsToken, Bool.or_eq_false_iff] at token
      exact token.1.1
    have after : (place.after c).line = place.line ∧ (place.after c).index = place.index + 1 := by
      unfold Place.after
      rw [unbroken, if_neg Bool.false_ne_true]
      split <;> exact ⟨rfl, rfl⟩
    obtain ⟨line, index⟩ := ih (fun d mem => solid d (List.mem_cons_of_mem c mem)) (place.after c)
    rw [List.foldl_cons, List.length_cons, line, index, after.1, after.2]
    exact ⟨rfl, by omega⟩

section

variable {key : List Char} (isKey : IsKeyText key) (released : Nat) {place : Place} (rest : List Char)

/-- Scanning behind a key, which stays until the colon behind it is found. -/
def behindKey (opened : Bool) (key : List Char) (released : Nat) (place : Place) (rest : List Char) : Scanner :=
  { between opened false released ⟨':' :: ' ' :: rest, key.foldl Place.after place⟩ with
    found := [⟨.scalar true ⟨key, []⟩, place, key.foldl Place.after place⟩]
    keys := [(0, ⟨released, opened, place⟩)] }

/-- The tokens of a key, with the one that opens the mapping when it is the first. -/
def keyTokens (opened : Bool) (key : List Char) (place : Place) : List Token :=
  (if opened then [] else [⟨.blockMappingStart, place, place⟩]) ++
    [⟨.key, place, place⟩, ⟨.scalar true ⟨key, []⟩, place, key.foldl Place.after place⟩,
      ⟨.value, key.foldl Place.after place, (key.foldl Place.after place).after ':'⟩]

/-- Scanning behind the colon of an entry. -/
def behindColon (opened : Bool) (key : List Char) (released : Nat) (place : Place) (rest : List Char) : Scanner :=
  { between true false released ⟨' ' :: rest, (key.foldl Place.after place).after ':'⟩ with found := keyTokens opened key place }

include isKey

private theorem fetchPlain_key (first : place.column = 0) :
    (between opened true released ⟨key ++ ':' :: ' ' :: rest, place⟩).fetchPlain =
      .ok (behindKey opened key released place rest) := by
  have reads := plainScalar_key isKey.isWord ((if opened then 0 else -1) + 1) rest place
  have noted : (between opened true released ⟨key ++ ':' :: ' ' :: rest, place⟩).noteKey =
      .ok { between opened true released ⟨key ++ ':' :: ' ' :: rest, place⟩ with keys := [(0, ⟨released, opened, place⟩)] } := by
    unfold noteKey
    simp only [between, if_true, first, keyHere, dropKey, List.lookup_nil, bind, Except.bind, pure, Except.pure, List.nil_append,
      List.length_nil, Nat.add_zero]
    cases opened <;> rfl
  unfold fetchPlain
  simp only [noted, bind, Except.bind, pure, Except.pure]
  simp only [between, bne_self_eq_false, reads]
  rfl

private theorem behindKey_fresh : (behindKey opened key released place rest).dropStaleKeys = .ok (behindKey opened key released place rest) := by
  obtain ⟨line, index⟩ := place_word isKey.isWord.solid place
  have fresh : isStale (behindKey opened key released place rest) ⟨released, opened, place⟩ = false := by
    have near := isKey.short
    simp only [isStale, behindKey, between, line, index, bne_self_eq_false, Bool.false_or, decide_eq_false_iff_not]
    omega
  unfold dropStaleKeys
  simp only [show (behindKey opened key released place rest).keys = [(0, ⟨released, opened, place⟩)] from rfl, List.find?_cons,
    fresh, Bool.false_and, List.find?_nil, List.filter_cons, Bool.not_false, if_true, List.filter_nil]
  rfl

private theorem behindKey_settles : Settles (behindKey opened key released place rest) (behindKey opened key released place rest) where
  unmarked := by simp [Cursor.peek, behindKey, between]
  skipped := by
    have stands : AtToken (behindKey opened key released place rest).cursor.rest := by
      intro c mem
      obtain rfl : ':' = c := by simpa [behindKey, between] using mem
      decide
    rw [skipBlanks_atToken stands]
    exact behindKey_fresh isKey released rest
  flow := rfl
  inside := by
    have below : (if opened then 0 else -1 : Int) ≤ 0 := by cases opened <;> decide
    simp only [behindKey, between]
    omega

omit isKey in
private theorem fetchValue_key (first : place.column = 0) :
    (behindKey opened key released place rest).fetchValue = .ok (behindColon opened key released place rest) := by
  unfold fetchValue
  simp only [keyHere, behindKey, between, List.lookup_cons_self]
  simp [openAt, first, insertBefore, behindColon, between, keyTokens, bind, Except.bind, pure, Except.pure, take, Cursor.advance]
  cases opened <;> simp

end

variable {turns : Nat} {kinds : List TokenKind} {plain : Bool} {written content behind : List Char}

private theorem scalar_begins (isScalar : IsScalar plain written content) (behind : List Char) :
    ∃ c rest, written ++ '\n' :: behind = c :: rest ∧ endsToken (some c) = false ∧ c ≠ '#' := by
  cases isScalar with
  | plain isPlain =>
    cases written with
    | nil => exact absurd isPlain.solid (by decide)
    | cons c rest =>
      refine ⟨c, rest ++ '\n' :: behind, rfl, isPlain.solid, ?_⟩
      rintro rfl
      exact absurd (isPlain.begins behind) (by simp [startsMarked, startsIndicator])
  | quoted double shape reads =>
    rw [shape]
    exact ⟨_, _, rfl, by cases double <;> decide, by cases double <;> decide⟩

private theorem scalar_settles (isScalar : IsScalar plain written content) (behind : List Char) (released : Nat) (place : Place) :
    Settles (between true false released ⟨' ' :: (written ++ '\n' :: behind), place⟩)
      (between true false released ⟨written ++ '\n' :: behind, place.after ' '⟩) where
  unmarked := by simp [Cursor.peek, between]
  skipped := by
    have stands : AtToken (written ++ '\n' :: behind) := by
      obtain ⟨c, rest, shape, solid, comment⟩ := scalar_begins isScalar behind
      intro d mem
      rw [shape] at mem
      obtain rfl : c = d := by simpa using mem
      exact ⟨solid, comment⟩
    rw [@skipBlanks_space (between true false released ⟨' ' :: (written ++ '\n' :: behind), place⟩) _ place rfl stands]
    rfl
  flow := rfl
  inside := by
    simp only [between, if_true]
    omega

/-- The scalar of an entry is one token, and behind it the next line begins. -/
theorem fetch_scalar (isScalar : IsScalar plain written content) (next : NextLine behind) (released : Nat) (place : Place) :
    ∃ (after : Scanner) (token : Token), (between true false released ⟨' ' :: (written ++ '\n' :: behind), place⟩).fetch = .ok after ∧
      after.found = [token] ∧ after.keys = [] ∧ token.kind = .scalar plain ⟨content, []⟩ ∧
      Ready true behind { after with found := [], released := after.released + 1 } := by
  have settles := scalar_settles isScalar behind released place
  obtain ⟨c, rest, shape, solid, -⟩ := scalar_begins isScalar behind
  -- A plain scalar is read with the line break behind it; a quoted one leaves the break to be skipped.
  cases isScalar with
  | plain isPlain =>
    obtain ⟨stop, last, reads, first⟩ := isPlain.reads behind (place.after ' ') next
    have inside : (place.after ' ').column ≠ 0 := Nat.succ_ne_zero place.column
    have found := fetch_plain settles (show (between true false released ⟨written ++ '\n' :: behind, place.after ' '⟩).cursor.rest =
      c :: rest from shape) solid (by rw [← shape]; exact isPlain.begins behind) (.inl inside)
    refine ⟨{ between true true released ⟨behind, last⟩ with found := [⟨.scalar true ⟨content, []⟩, place.after ' ', stop⟩] }, _, ?_,
      rfl, rfl, rfl, .here (released + 1) first⟩
    rw [found]
    unfold fetchPlain
    simp only [noteKey, between, Bool.false_eq_true, if_false, bind, Except.bind, pure, Except.pure, bne_self_eq_false, if_true,
      Int.zero_add, reads, List.nil_append]
  | quoted double quoted reads =>
    obtain ⟨last, reads⟩ := reads behind (place.after ' ')
    have found := fetch_quoted settles (show (between true false released ⟨written ++ '\n' :: behind, place.after ' '⟩).cursor.rest =
      (if double then '\x22' else '\x27') :: _ from congrArg (· ++ '\n' :: behind) quoted)
    refine ⟨{ between true false released ⟨'\n' :: behind, last⟩ with
      found := [⟨.scalar false ⟨content, []⟩, place.after ' ', last⟩] }, _, ?_, rfl, rfl, rfl, .broken (released + 1) last⟩
    rw [found]
    unfold fetchQuoted
    simp only [noteKey, between, Bool.false_eq_true, if_false, bind, Except.bind, pure, Except.pure, reads, take, List.nil_append]

/-- A line of the mapping is turned into the tokens of its key and of its scalar; the first line opens the mapping. -/
theorem yields_line (line : Line) (next : NextLine behind) (ready : Ready opened (line.text ++ behind) s)
    (rest : ∀ after, Ready true behind after → Yields turns after kinds) :
    Yields (turns + 8) s ((if opened then [] else [.blockMappingStart]) ++ line.kinds ++ kinds) := by
  obtain ⟨place, first, settles⟩ := ready.settles (line.begins behind)
  obtain ⟨working, empty⟩ := ready.working
  have text : line.text ++ behind = line.key ++ ':' :: ' ' :: (line.written ++ '\n' :: behind) := by simp [Line.text]
  rw [text] at settles
  -- The key is held back until its colon is fetched, and only then are both released.
  have foundKey : s.fetch = .ok (behindKey opened line.key s.released place (line.written ++ '\n' :: behind)) := by
    obtain ⟨c, key, shape⟩ := List.exists_cons_of_ne_nil line.isKey.some
    have named := line.isKey.named c (shape ▸ List.mem_cons_self)
    rw [← fetchPlain_key line.isKey _ _ first]
    exact fetch_plain settles (congrArg (· ++ _) shape) (isKeyChar_solid named) (isKeyChar_begins named _)
      (.inr ⟨isKeyChar_ne named (by decide), isKeyChar_ne named (by decide)⟩)
  have foundColon : (behindKey opened line.key s.released place (line.written ++ '\n' :: behind)).fetch =
      .ok (behindColon opened line.key s.released place (line.written ++ '\n' :: behind)) :=
    (fetch_value (behindKey_settles line.isKey s.released _) rfl).trans (fetchValue_key s.released _ first)
  obtain ⟨after, token, foundScalar, found, keys, kind, ready⟩ := fetch_scalar line.isScalar next
    (s.released + (keyTokens opened line.key place).length) ((line.key.foldl Place.after place).after ':')
  have scalar : Yields (turns + 1 + 1) (between true false (s.released + (keyTokens opened line.key place).length)
      ⟨' ' :: (line.written ++ '\n' :: behind), (line.key.foldl Place.after place).after ':'⟩)
      (.scalar line.plain ⟨line.content, []⟩ :: kinds) := by
    rw [← kind]
    exact ((rest _ ready).released found keys).fetched rfl rfl foundScalar
  have key := scalar.released (s := behindColon opened line.key s.released place (line.written ++ '\n' :: behind)) rfl rfl
  have all := (key.awaited (s := behindKey opened line.key s.released place (line.written ++ '\n' :: behind)) rfl (List.cons_ne_nil _ _)
    (behindKey_fresh line.isKey _ _) (by simp [headMayBeKey, behindKey, between]) foundColon).fetched working empty foundKey
  have kinds_eq : (keyTokens opened line.key place).map Token.kind ++ .scalar line.plain ⟨line.content, []⟩ :: kinds =
      (if opened then [] else [.blockMappingStart]) ++ line.kinds ++ kinds := by
    cases opened <;> rfl
  rw [← kinds_eq]
  refine all.mono ?_
  have few : (keyTokens opened line.key place).length ≤ 4 := by cases opened <;> simp [keyTokens]
  change turns + 1 + 1 + (keyTokens opened line.key place).length + 1 + 1 ≤ _
  omega

/-- The end of the text closes the mapping and the stream. -/
theorem yields_end (ready : Ready true [] s) : Yields 4 s [.blockEnd, .streamEnd] := by
  obtain ⟨place, first, settles⟩ := ready.settles (by simp)
  obtain ⟨working, empty⟩ := ready.working
  have found : s.fetch = .ok { between true false s.released ⟨[], place⟩ with
      found := [⟨.blockEnd, place, place⟩, ⟨.streamEnd, place, place⟩], done := true, indent := -1, outer := [] } := by
    rw [fetch_end settles rfl]
    rfl
  have finished := Yields.ended (s := { between true false (s.released + 2) ⟨[], place⟩ with
    done := true, indent := -1, outer := [] }) rfl rfl
  have closed := Yields.released (s := { between true false s.released ⟨[], place⟩ with
    found := [⟨.blockEnd, place, place⟩, ⟨.streamEnd, place, place⟩], done := true, indent := -1, outer := [] }) rfl rfl finished
  exact closed.fetched working empty found

private theorem yields_lines (lines : List Line) (ready : Ready true (lines.flatMap Line.text) s) :
    Yields (8 * lines.length + 4) s (lines.flatMap Line.kinds ++ [.blockEnd, .streamEnd]) := by
  induction lines generalizing s with
  | nil => exact yields_end ready
  | cons line lines ih =>
    have := yields_line line (Line.nextLine_lines lines) ready (fun after ready => ih ready)
    rw [List.flatMap_cons, List.append_assoc, List.length_cons]
    exact this.mono (by omega)

end Scanner

/-- A text of lines is the feed of one block mapping. -/
theorem feed_lines (line : Line) (lines : List Line) (readable : ∀ c ∈ (line :: lines).flatMap Line.text, isReadable c = true) :
    ∃ tokens, Feed.ofText ((line :: lines).flatMap Line.text) = ⟨tokens, none⟩ ∧
      tokens.map Token.kind = .blockMappingStart :: ((line :: lines).flatMap Line.kinds ++ [.blockEnd, .streamEnd]) := by
  have ready : Scanner.Ready false ((line :: lines).flatMap Line.text)
      { cursor := .ofText ((line :: lines).flatMap Line.text), released := 1 } := .here 1 rfl
  have yields := Scanner.yields_line line (Line.nextLine_lines lines) ready (fun after ready => Scanner.yields_lines lines ready)
  have enough : 8 * lines.length + 4 + 8 ≤ 10 * ((line :: lines).flatMap Line.text).length + 20 := by
    have := Line.length_lines lines
    rw [List.flatMap_cons, List.length_append]
    omega
  obtain ⟨tokens, runs, kinds⟩ := yields _ [] enough
  refine ⟨tokens, ?_, by simpa using kinds⟩
  have found : ((line :: lines).flatMap Line.text).findIdx? (fun c => !isReadable c) = none := by
    rw [List.findIdx?_eq_none_iff]
    exact fun c mem => by rw [readable c mem]; rfl
  unfold Feed.ofText
  rw [found]
  exact runs

end ElasticEndpoint.Yaml
