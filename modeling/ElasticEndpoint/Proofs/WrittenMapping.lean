import Mathlib.Data.Bool.AllAny
import ElasticEndpoint.Text.Split
import ElasticEndpoint.Proofs.FlatMapping
import ElasticEndpoint.Proofs.NumberText

/-!
Flat mappings read back as they are written. Whatever a value is, it is written in printable characters of ASCII and line
feeds, as one scalar with the value as its meaning; so the mapping that is loaded is the one that was written.
-/

namespace ElasticEndpoint.Yaml

open Decimal (Binary64)

private theorem isReadable_ordinary {c : Char} (ordinary : isOrdinary c = true) : isReadable c = true := by
  simp only [isOrdinary, Bool.or_eq_true, beq_iff_eq, Bool.and_eq_true, decide_eq_true_eq] at ordinary
  obtain rfl | printable := ordinary
  · rfl
  · simp [isReadable, printable]

private theorem unifyLineEnds_ordinary : ∀ {text : List Char}, (∀ c ∈ text, isOrdinary c = true) → Text.unifyLineEnds text = text
  | [], _ => rfl
  | c :: rest, ordinary => by
    have feed : c ≠ '\r' := by
      rintro rfl
      exact absurd (ordinary '\r' List.mem_cons_self) (by decide)
    have others := unifyLineEnds_ordinary fun d mem => ordinary d (List.mem_cons_of_mem c mem)
    rw [Text.unifyLineEnds.eq_def]
    split
    next equal => cases equal
    next equal => exact absurd (List.cons.inj equal).1 feed
    next equal =>
      obtain ⟨rfl, rfl⟩ := List.cons.inj equal
      rw [others, beq_false_of_ne feed]
      rfl

section

variable {c d : Char}

private theorem ordinary_hexDigit (digit : (hexDigit? d).isNone = false) : isOrdinary d = true := by
  unfold hexDigit? at digit
  have printable : 0x20 ≤ d.toNat ∧ d.toNat ≤ 0x7E := by
    split at digit
    next ten =>
      simp only [Char.isDigit, Bool.and_eq_true, decide_eq_true_eq] at ten
      have low : 48 ≤ d.toNat := ten.1
      have high : d.toNat ≤ 57 := ten.2
      omega
    next =>
      split at digit
      next lower =>
        simp only [Bool.and_eq_true, decide_eq_true_eq] at lower
        have low : 97 ≤ d.toNat := lower.1
        have high : d.toNat ≤ 102 := lower.2
        omega
      next =>
        split at digit
        next upper =>
          simp only [Bool.and_eq_true, decide_eq_true_eq] at upper
          have low : 65 ≤ d.toNat := upper.1
          have high : d.toNat ≤ 70 := upper.2
          omega
        next => cases digit
  simp [isOrdinary, printable]

private theorem ordinary_escapeLetter {letter : Char} (short : escapeLetter? c = some letter) : isOrdinary letter = true := by
  obtain ⟨before, behind, pairs, -⟩ := List.lookup_eq_some_iff.mp short
  have letters : ∀ pair ∈ [(0, '0'), (7, 'a'), (8, 'b'), (9, 't'), (10, 'n'), (11, 'v'), (12, 'f'), (13, 'r'), (27, 'e'),
      (0x22, '\x22'), (0x5C, '\\'), (0x85, 'N'), (0xA0, '_'), (0x2028, 'L'), (0x2029, 'P')], isOrdinary pair.2 = true := by decide
  exact letters (c.toNat, letter) (pairs ▸ List.mem_append_right before List.mem_cons_self)

private theorem ordinary_escape {escape : List Char} (needs : escape? c = some escape) : ∀ d ∈ escape, isOrdinary d = true := by
  have hex (letter : Char) (ordinary : isOrdinary letter = true) (width : Nat) :
      ∀ d ∈ '\\' :: letter :: upperHex width c.toNat, isOrdinary d = true := by
    intro d mem
    simp only [List.mem_cons] at mem
    obtain rfl | rfl | digit := mem
    · rfl
    · exact ordinary
    · exact ordinary_hexDigit (hexDigit?_upperHex width c.toNat d digit)
  unfold escape? at needs
  dsimp only at needs
  split at needs
  · cases needs
  · obtain rfl := Option.some.inj needs
    split
    next letter short =>
      intro d mem
      simp only [List.mem_cons, List.not_mem_nil, or_false] at mem
      obtain rfl | rfl := mem
      · rfl
      · exact ordinary_escapeLetter short
    next =>
      split
      · exact hex 'x' rfl 2
      · split
        · exact hex 'u' rfl 4
        · exact hex 'U' rfl 8

private theorem ordinary_doubleFold (next : Option Char) : ∀ c ∈ doubleFold next, isOrdinary c = true := by
  unfold doubleFold
  split <;> exact List.all_iff_forall_prop.mp (by decide)

private theorem ordinary_unescaped (plain : escape? c = none) : isOrdinary c = true := by
  obtain ⟨low, high, -⟩ := unescaped plain
  simp [isOrdinary, low, high]

private theorem ordinary_doubleFrom (text : List Char) (first fresh : Bool) (column : Nat) :
    ∀ c ∈ doubleFrom first fresh column text, isOrdinary c = true := by
  induction text generalizing first fresh column with
  | nil => simp [doubleFrom]
  | cons c rest ih =>
    rw [doubleFrom]
    dsimp only
    cases needs : escape? c with
    | some escape =>
      dsimp only
      split
      · intro d mem
        simp only [List.mem_append] at mem
        obtain (own | fold) | others := mem
        · exact ordinary_escape needs d own
        · exact ordinary_doubleFold _ d fold
        · exact ih _ _ _ d others
      · intro d mem
        obtain own | others := List.mem_append.mp mem
        · exact ordinary_escape needs d own
        · exact ih _ _ _ d others
    | none =>
      have own := ordinary_unescaped needs
      dsimp only
      split
      · intro d mem
        obtain fold | rest := List.mem_append.mp mem
        · exact ordinary_doubleFold _ d fold
        · obtain rfl | others := List.mem_cons.mp rest
          · exact own
          · exact ih _ _ _ d others
      · intro d mem
        obtain rfl | others := List.mem_cons.mp mem
        · exact own
        · exact ih _ _ _ d others

end

private theorem ordinary_writtenBreaks {text : List Char} (ordinary : ∀ c ∈ text, isOrdinary c = true) :
    ∀ c ∈ writtenBreaks text, isOrdinary c = true := by
  intro c mem
  simp only [writtenBreaks, List.mem_append] at mem
  obtain (feed | own) | indent := mem
  · split at feed
    · obtain rfl := List.mem_singleton.mp feed
      rfl
    · cases feed
  · exact ordinary c own
  · have spaces : ∀ c ∈ foldIndent, isOrdinary c = true := List.all_iff_forall_prop.mp (by decide)
    exact spaces c indent

private theorem ordinary_writeRuns {solid : List Char → List Char}
    (keeps : ∀ text, (∀ c ∈ text, isOrdinary c = true) → ∀ c ∈ solid text, isOrdinary c = true) {runs : List Run}
    (ordinary : Ordinary runs) (first : Bool) (column : Nat) : ∀ c ∈ writeRuns solid first column runs, isOrdinary c = true := by
  induction runs generalizing first column with
  | nil => simp [writeRuns]
  | cons run rest ih =>
    have others := ih fun run mem => ordinary run (List.mem_cons_of_mem _ mem)
    have own := ordinary run List.mem_cons_self
    intro c mem
    cases run with
    | solid text =>
      obtain here | behind := List.mem_append.mp mem
      · exact keeps text own c here
      · exact others _ _ c behind
    | breaks text =>
      obtain here | behind := List.mem_append.mp mem
      · exact ordinary_writtenBreaks own c here
      · exact others _ _ c behind
    | spaces count =>
      rw [writeRuns] at mem
      split at mem
      · have fold : ∀ c ∈ '\n' :: foldIndent, isOrdinary c = true := List.all_iff_forall_prop.mp (by decide)
        obtain here | behind := List.mem_append.mp mem
        · exact fold c here
        · exact others _ _ c behind
      · obtain here | behind := List.mem_append.mp mem
        · obtain rfl := List.eq_of_mem_replicate here
          rfl
        · exact others _ _ c behind

private theorem ordinary_doubleApostrophes (text : List Char) (ordinary : ∀ c ∈ text, isOrdinary c = true) :
    ∀ c ∈ doubleApostrophes text, isOrdinary c = true := by
  intro c mem
  obtain ⟨d, inside, doubled⟩ := List.mem_flatMap.mp mem
  have same : c = d := by
    split at doubled <;> simpa using doubled
  exact same ▸ ordinary d inside

private theorem ordinary_writeText (column : Nat) (text : List Char) : ∀ c ∈ writeText column text, isOrdinary c = true := by
  unfold writeText
  cases style : styleOf text with
  | plain =>
    have fits := styleOf_plain style
    simp only [fitsPlain, Bool.not_not, Bool.and_eq_true] at fits
    exact ordinary_writeRuns (fun _ ordinary => ordinary) (ordinary_ofText fits.1.1.2) true column
  | single =>
    intro c mem
    simp only [List.cons_append, List.mem_cons, List.mem_append, List.not_mem_nil, or_false] at mem
    obtain rfl | inside | rfl := mem
    · rfl
    · exact ordinary_writeRuns ordinary_doubleApostrophes (styleOf_single style).2 true (column + 1) c inside
    · rfl
  | double =>
    intro c mem
    simp only [List.cons_append, List.mem_cons, List.mem_append, List.not_mem_nil, or_false] at mem
    obtain rfl | inside | rfl := mem
    · rfl
    · exact ordinary_doubleFrom text true true (column + 1) c inside
    · rfl

private theorem ordinary_numerals {text : List Char} (numeric : ∀ c ∈ text, c ∈ numerals) : ∀ c ∈ text, isOrdinary c = true := by
  have ordinary : ∀ c ∈ numerals, isOrdinary c = true := List.all_iff_forall_prop.mp (by decide)
  exact fun c mem => ordinary c (numeric c mem)

/-- A number is a word, and its minus stands before no blank. -/
theorem IsUnsigned.isPlain {text : List Char} (unsigned : IsUnsigned text) (negative : Bool) :
    IsPlain (signed negative text) (signed negative text) := by
  have isWord : IsWord (signed negative text) := by
    constructor
    · unfold signed
      split
      · exact List.cons_ne_nil _ _
      · exact unsigned.some
    · have solid : ∀ c ∈ numerals, endsToken (Option.some c) = false := List.all_iff_forall_prop.mp (by decide)
      exact fun c mem => solid c (unsigned.mem_signed c mem)
    · exact fun comment => absurd (unsigned.mem_signed _ (List.mem_of_head? comment)) (by decide)
    · exact fun colon => absurd (unsigned.mem_signed _ (List.mem_of_getLast? colon)) (by decide)
  apply isPlain_word isWord
  obtain ⟨c, rest, digit, rfl⟩ := unsigned.begins
  have inside := unsigned.numeric c List.mem_cons_self
  cases negative with
  | true =>
    have solid : ∀ c ∈ numerals, blankOrEnd (Option.some c) = false := List.all_iff_forall_prop.mp (by decide)
    change startsIndicator '-' (Option.some c) = false
    rw [startsIndicator, solid c inside]
    rfl
  | false =>
    have plain : ∀ c ∈ numerals, c.isDigit = true → startsIndicator c (Option.some 'a') = false ∧ ['?', ':', '-'].contains c = false :=
      List.all_iff_forall_prop.mp (by decide)
    obtain ⟨alone, dash⟩ := plain c inside digit
    change startsIndicator c rest.head? = false
    rw [startsIndicator, Bool.or_eq_false_iff] at alone ⊢
    exact ⟨alone.1, by rw [dash, Bool.false_and]⟩

/-- A value of an entry as it is loaded. -/
def Plain.value : Plain → Value
  | .null => .null
  | .int n => .int n
  | .real x => .real x
  | .text s => .text s

/-- What is written is read as one scalar with a value, and is made of ordinary characters. -/
structure Stated (written : List Char) (value : Value) : Prop where
  reads : ∃ plain content, IsScalar plain written content ∧ Means plain content value
  ordinary : ∀ c ∈ written, isOrdinary c = true

private theorem stated_null : Stated "null".toList .null := by
  have isWord : IsWord "null".toList := ⟨by decide, List.all_iff_forall_prop.mp (by decide), by decide, by decide⟩
  exact ⟨⟨true, _, .plain (isPlain_word isWord (by decide)), rfl⟩, List.all_iff_forall_prop.mp (by decide)⟩

private theorem stated_int {n : Int} (inverted : toInteger (toString n).toList = .ok n) : Stated (toString n).toList (.int n) := by
  have unsigned := isUnsigned_toDigits n.natAbs
  have tag := ofPlain_toString n
  have means : Means true (toString n).toList (.int n) := by
    unfold Means
    rw [if_pos rfl, tag, scalarValue?, inverted]
    rfl
  rw [toString_int] at means ⊢
  exact ⟨⟨true, _, .plain (unsigned.isPlain _), means⟩, ordinary_numerals unsigned.mem_signed⟩

private theorem stated_real (x : Binary64) : Stated (writeReal x) (.real x) := by
  have means : Means true (writeReal x) (.real x) := by
    unfold Means
    rw [if_pos rfl, ofPlain_writeReal, scalarValue?, toReal_writeReal]
    rfl
  have special (word : List Char) (isWord : IsWord word) (begins : startsMarked word = false)
      (means : Means true word (.real x)) (ordinary : ∀ c ∈ word, isOrdinary c = true) : Stated word (.real x) :=
    ⟨⟨true, word, .plain (isPlain_word isWord begins), means⟩, ordinary⟩
  cases x with
  | infinite negative =>
    cases negative
    · exact special ".inf".toList ⟨by decide, List.all_iff_forall_prop.mp (by decide), by decide, by decide⟩ (by decide) means (List.all_iff_forall_prop.mp (by decide))
    · exact special "-.inf".toList ⟨by decide, List.all_iff_forall_prop.mp (by decide), by decide, by decide⟩ (by decide) means (List.all_iff_forall_prop.mp (by decide))
  | nan => exact special ".nan".toList ⟨by decide, List.all_iff_forall_prop.mp (by decide), by decide, by decide⟩ (by decide) means (List.all_iff_forall_prop.mp (by decide))
  | finite negative significand exponent normal =>
    obtain ⟨number, shape, -⟩ := magnitude_reads normal
    rw [writeReal_eq, shape] at means ⊢
    exact ⟨⟨true, _, .plain (number.isUnsigned.isPlain negative), means⟩, ordinary_numerals number.isUnsigned.mem_signed⟩

private theorem stated_text (column : Nat) (text : List Char) : Stated (writeText column text) (.text (String.ofList text)) := by
  refine ⟨?_, ordinary_writeText column text⟩
  cases style : styleOf text with
  | plain =>
    have fits := styleOf_plain style
    simp only [fitsPlain, Bool.and_eq_true, beq_iff_eq] at fits
    exact ⟨true, text, .plain (isPlain_text style column), means_text fun _ => fits.1.1.1.1.1.1.1⟩
  | single =>
    have quoted : writeText column text = '\x27' :: (writeRuns doubleApostrophes true (column + 1) (Run.ofText text) ++ ['\x27']) := by
      unfold writeText
      rw [style]
      rfl
    refine ⟨false, text, .quoted false quoted ?_, means_text fun plain => by cases plain⟩
    intro behind place
    exact quotedScalar_single column ('\n' :: behind) place style (by simp)
  | double =>
    have quoted : writeText column text = '\x22' :: (doubleFrom true true (column + 1) text ++ ['\x22']) := by
      unfold writeText
      rw [style]
      rfl
    refine ⟨false, text, .quoted true quoted ?_, means_text fun plain => by cases plain⟩
    intro behind place
    exact quotedScalar_double column ('\n' :: behind) place style

private theorem stated_plain (column : Nat) {value : Plain}
    (inverted : ∀ n, value = .int n → toInteger (toString n).toList = .ok n) :
    Stated (writePlain column value) value.value := by
  cases value with
  | null => exact stated_null
  | int n => exact stated_int (inverted n rfl)
  | real x => exact stated_real x
  | text s =>
    have stated := stated_text column s.toList
    rwa [String.ofList_toList] at stated

/-- An entry that can be read back: its key is a name that is read as text, and its integer is read as it is written. -/
structure IsWritable (entry : String × Plain) : Prop where
  isKey : IsKeyText entry.1.toList
  named : Tag.ofPlain entry.1.toList = .str
  inverted : ∀ n, entry.2 = .int n → toInteger (toString n).toList = .ok n

/-- The text of an entry. -/
def writeEntry (entry : String × Plain) : List Char :=
  let key := entry.1.toList ++ [':', ' ']
  key ++ writePlain key.length entry.2 ++ ['\n']

private theorem exists_field {entry : String × Plain} (writable : IsWritable entry) :
    ∃ field : Field, field.text = writeEntry entry ∧ (field.name, field.value) = (entry.1, entry.2.value) := by
  obtain ⟨plain, content, isScalar, means⟩ := (stated_plain (entry.1.toList ++ [':', ' ']).length writable.inverted).reads
  refine ⟨⟨⟨entry.1.toList, plain, _, content, writable.isKey, isScalar⟩, entry.2.value, writable.named, means⟩, ?_, ?_⟩
  · simp [Line.text, writeEntry]
  · rw [Field.name, String.ofList_toList]

private theorem exists_fields {entries : List (String × Plain)} (writable : ∀ entry ∈ entries, IsWritable entry) :
    ∃ fields : List Field, fields.flatMap (fun field => field.text) = entries.flatMap writeEntry ∧
      fields.map (fun field => (field.name, field.value)) = entries.map fun entry => (entry.1, entry.2.value) := by
  induction entries with
  | nil => exact ⟨[], rfl, rfl⟩
  | cons entry entries ih =>
    obtain ⟨field, text, pair⟩ := exists_field (writable entry List.mem_cons_self)
    obtain ⟨fields, texts, pairs⟩ := ih fun other mem => writable other (List.mem_cons_of_mem entry mem)
    exact ⟨field :: fields, by rw [List.flatMap_cons, List.flatMap_cons, text, texts], by rw [List.map_cons, List.map_cons, pair, pairs]⟩

private theorem ordinary_key {c : Char} (named : isKeyChar c = true) : isOrdinary c = true := by
  obtain ⟨low, high, -⟩ := isKeyChar_range named
  have printable : 0x20 ≤ c.toNat ∧ c.toNat ≤ 0x7E := by omega
  simp [isOrdinary, printable]

private theorem ordinary_write {entries : List (String × Plain)} (writable : ∀ entry ∈ entries, IsWritable entry) :
    ∀ c ∈ entries.flatMap writeEntry, isOrdinary c = true := by
  intro c mem
  obtain ⟨entry, inside, own⟩ := List.mem_flatMap.mp mem
  have writable := writable entry inside
  simp only [writeEntry, List.mem_append, List.mem_cons, List.not_mem_nil, or_false] at own
  obtain ((key | rfl | rfl) | value) | rfl := own
  · exact ordinary_key (writable.isKey.named c key)
  · rfl
  · rfl
  · exact (stated_plain _ writable.inverted).ordinary c value
  · rfl

/-- A flat mapping is loaded as it was written. -/
theorem load_write {entries : List (String × Plain)} (some : entries ≠ []) (writable : ∀ entry ∈ entries, IsWritable entry)
    (distinct : (entries.map (·.1)).Nodup) :
    load (String.ofList (Text.unifyLineEnds (write entries).toList)) =
      .ok (.map (entries.map fun entry => (.text entry.1, entry.2.value))) := by
  have ordinary := ordinary_write writable
  have written : (write entries).toList = entries.flatMap writeEntry := String.toList_ofList
  obtain ⟨fields, text, pairs⟩ := exists_fields writable
  have names : fields.map Field.name = entries.map (·.1) := by
    have firsts := congrArg (List.map Prod.fst) pairs
    rw [List.map_map, List.map_map] at firsts
    exact firsts
  have values : fields.map (fun field => (Value.text field.name, field.value)) =
      entries.map fun entry => (Value.text entry.1, entry.2.value) := by
    have keyed := congrArg (List.map fun pair => (Value.text pair.1, pair.2)) pairs
    rw [List.map_map, List.map_map] at keyed
    exact keyed
  rw [written, unifyLineEnds_ordinary ordinary, ← text, ← values]
  rw [← text] at ordinary
  rw [← names] at distinct
  cases fields with
  | nil => exact absurd (List.map_eq_nil_iff.mp names.symm) some
  | cons field fields => exact load_fields field fields distinct fun c mem => isReadable_ordinary (ordinary c mem)

end ElasticEndpoint.Yaml
