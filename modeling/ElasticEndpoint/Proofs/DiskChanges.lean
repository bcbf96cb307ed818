import ElasticEndpoint.Files.Disk
import ElasticEndpoint.Logging

/-!
Changes of a disk. Where a path leads is settled by its names alone; the folders on the way only decide whether it
leads there at all. A disk changes by files that are written at some places and by folders that are made at others,
and never is a folder made where something stands.
-/

namespace ElasticEndpoint

namespace Files

/-- Where names lead from a place. -/
def walk (place : Place) (names : List String) : Place :=
  names.foldl (fun place name => if name == ".." then place.dropLast else place ++ [name]) place

namespace Disk

variable {disk before middle after : Disk} {path : Path} {place : Place} {made written : Place → Prop}

/-- Where a path leads, if it leads anywhere. -/
def aim (disk : Disk) (path : Path) : Place := walk (disk.start path) path.names

private theorem follow_walk {target : Place} {names : List String} (found : disk.follow place names = .ok target) :
    target = walk place names := by
  induction names generalizing place with
  | nil =>
    cases found
    rfl
  | cons name rest ih =>
    unfold follow at found
    split at found
    · cases found
    · split at found
      · cases found
      · exact ih found

theorem locate_aim (found : disk.locate path = .ok place) : place = disk.aim path := by
  unfold locate at found
  split at found
  · cases found
  · split at found
    · cases found
    · exact follow_walk found

theorem filePlace_ok_iff :
    disk.filePlace path = .ok place ↔ disk.locate path = .ok place ∧ disk.hasFolder place = false := by
  unfold filePlace
  split
  next lost => simp [lost]
  next target found =>
    rw [found]
    split
    next folder =>
      constructor
      · rintro ⟨⟩
      · rintro ⟨⟨⟩, vacant⟩
        rw [vacant] at folder
        cases folder
    next vacant =>
      constructor
      · rintro ⟨⟩
        exact ⟨rfl, by simpa using vacant⟩
      · rintro ⟨⟨⟩, -⟩
        rfl

/-- What stands at a place: the text of a file, and whether it is a folder. -/
def standing (disk : Disk) (place : Place) : Option String × Bool := (disk.textAt? place, disk.hasFolder place)

/-- How a disk changes: files are written at some places, and folders are made at others where nothing stands. -/
structure Changes (made written : Place → Prop) (before after : Disk) : Prop where
  home : after.home = before.home
  text : ∀ place, ¬written place → after.textAt? place = before.textAt? place
  kept : ∀ place, before.hasFolder place = true → after.hasFolder place = true
  new : ∀ place, ¬written place → after.hasFolder place = true →
    before.hasFolder place = true ∨ made place ∧ before.textAt? place = none

theorem Changes.refl (disk : Disk) : Changes made written disk disk where
  home := rfl
  text _ _ := rfl
  kept _ there := there
  new _ _ there := .inl there

theorem Changes.trans (first : Changes made written before middle) (last : Changes made written middle after) :
    Changes made written before after where
  home := last.home.trans first.home
  text place unwritten := (last.text place unwritten).trans (first.text place unwritten)
  kept place there := last.kept place (first.kept place there)
  new place unwritten there := by
    rcases last.new place unwritten there with earlier | ⟨here, empty⟩
    · exact first.new place unwritten earlier
    · rw [first.text place unwritten] at empty
      exact .inr ⟨here, empty⟩

theorem Changes.imp {folders files : Place → Prop} (changes : Changes made written before after)
    (weaker : ∀ place, made place → folders place) (more : ∀ place, written place → files place) :
    Changes folders files before after where
  home := changes.home
  text place unwritten := changes.text place fun here => unwritten (more place here)
  kept := changes.kept
  new place unwritten there :=
    (changes.new place (fun here => unwritten (more place here)) there).imp id fun here => ⟨weaker place here.1, here.2⟩

/-- A place keeps what stands there, unless it is written or a folder is made where nothing was. -/
theorem Changes.standing (changes : Changes made written before after) (unwritten : ¬written place)
    (there : made place → before.standing place ≠ (none, false)) : after.standing place = before.standing place := by
  unfold Disk.standing at there ⊢
  rw [changes.text place unwritten]
  cases earlier : before.hasFolder place with
  | true => rw [changes.kept place earlier]
  | false =>
    cases later : after.hasFolder place with
    | false => rfl
    | true =>
      rcases changes.new place unwritten later with folder | ⟨here, empty⟩
      · rw [earlier] at folder
        cases folder
      · rw [earlier, empty] at there
        exact absurd rfl (there here)

private theorem hasFolder_put (disk : Disk) (place other : Place) (text : String) :
    (disk.put place text).hasFolder other = disk.hasFolder other := by
  unfold put
  split <;> rfl

private theorem home_put (disk : Disk) (place : Place) (text : String) : (disk.put place text).home = disk.home := by
  unfold put
  split <;> rfl

theorem changes_put (disk : Disk) (text : String) (here : written place) :
    Changes made written disk (disk.put place text) where
  home := home_put disk place text
  text other unwritten := by
    apply textAt?_put_of_ne
    rintro rfl
    exact unwritten here
  kept other there := by rwa [hasFolder_put]
  new other _ there := by
    rw [hasFolder_put] at there
    exact .inl there

private theorem hasFolder_rewrite (disk : Disk) (place other : Place) (text : String) :
    (disk.rewrite place text).hasFolder other = disk.hasFolder other := (hasFolder_put ..).trans (hasFolder_put ..)

private theorem changes_rewrite (disk : Disk) (text : String) (here : written place) :
    Changes made written disk (disk.rewrite place text) := (changes_put disk "" here).trans (changes_put _ _ here)

private theorem start_home (same : after.home = before.home) (path : Path) : after.start path = before.start path := by
  unfold start
  rw [same]

/-- Names lead where they led before. -/
theorem Changes.follow {target : Place} {names : List String} (changes : Changes made written before after)
    (found : before.follow place names = .ok target) : after.follow place names = .ok target := by
  induction names generalizing place with
  | nil => exact found
  | cons name rest ih =>
    unfold Disk.follow at found ⊢
    split at found
    · cases found
    next there =>
      have there : before.hasFolder place = true := by simpa using there
      rw [changes.kept place there]
      split at found
      · cases found
      next short =>
        rw [if_neg short]
        exact ih found

theorem Changes.locate (changes : Changes made written before after) (found : before.locate path = .ok place) :
    after.locate path = .ok place := by
  unfold Disk.locate at found ⊢
  split at found
  · cases found
  next nameable =>
    split at found
    · cases found
    next short =>
      rw [if_neg nameable, if_neg short, start_home changes.home]
      exact changes.follow found

theorem Changes.aim (changes : Changes made written before after) (path : Path) : after.aim path = before.aim path := by
  unfold Disk.aim
  rw [start_home changes.home]

/-- What is written where a path leads is read there. -/
theorem read_rewrite (led : disk.filePlace path = .ok place) (text : String) :
    (disk.rewrite place text).read path = .ok text := by
  obtain ⟨found, vacant⟩ := filePlace_ok_iff.mp led
  have changes : Changes (fun _ => False) (· = place) disk (disk.rewrite place text) := changes_rewrite disk text rfl
  have again : (disk.rewrite place text).filePlace path = .ok place :=
    filePlace_ok_iff.mpr ⟨changes.locate found, (hasFolder_rewrite ..).trans vacant⟩
  unfold read
  rw [again]
  simp only [bind, Except.bind, textAt?_rewrite_self]
  rfl

theorem hasFolder_append (disk : Disk) (place other : Place) :
    ({ disk with folders := disk.folders ++ [place] } : Disk).hasFolder other =
      (disk.hasFolder other || other == place) := by
  simp only [hasFolder, List.contains_append, List.contains_cons, List.contains_nil, Bool.or_false, Bool.or_assoc]

private theorem changes_makeFolder (ended : disk.makeFolder path = .ok after) :
    Changes (· = disk.aim path) written disk after := by
  unfold makeFolder at ended
  split at ended
  · cases ended
  next place found =>
    split at ended
    · cases ended
    next free =>
      cases ended
      simp only [Bool.or_eq_true, not_or, Bool.not_eq_true, Option.isSome_eq_false_iff, Option.isNone_iff_eq_none] at free
      refine ⟨rfl, fun _ _ => rfl, ?_, ?_⟩
      · intro other there
        rw [hasFolder_append, there]
        rfl
      · intro other _ there
        rw [hasFolder_append, Bool.or_eq_true, beq_iff_eq] at there
        rcases there with there | rfl
        · exact .inl there
        · exact .inr ⟨locate_aim found, free.2⟩

private theorem changes_ensureFolder (written : Place → Prop) (disk : Disk) (path : Path) :
    Changes (· = disk.aim path) written disk (disk.ensureFolder path).2 := by
  unfold ensureFolder
  split
  next ended => exact changes_makeFolder ended
  next => exact .refl disk

/-- A path passes the places that its first names lead to. -/
def Passes (disk : Disk) (path : Path) (place : Place) : Prop :=
  ∃ names, names <+: path.names ∧ place = walk (disk.start path) names

private theorem passes_home (same : after.home = before.home) (passed : after.Passes path place) : before.Passes path place := by
  obtain ⟨names, front, led⟩ := passed
  rw [start_home same] at led
  exact ⟨names, front, led⟩

/-- Folders are made at places that the path passes. -/
theorem changes_makeFolders (written : Place → Prop) (disk : Disk) (path : Path) (count : Nat) :
    Changes (disk.Passes path) written disk (disk.makeFolders path count).2 := by
  have passes (disk : Disk) (count : Nat) : ∀ place,
      place = disk.aim { path with names := path.names.take count } → disk.Passes path place :=
    fun place aimed => ⟨path.names.take count, List.take_prefix .., aimed⟩
  induction count generalizing disk with
  | zero =>
    exact (changes_ensureFolder written disk _).imp (passes disk 0) fun _ here => here
  | succ above ih =>
    have step := (changes_ensureFolder written disk { path with names := path.names.take (above + 1) }).imp
      (passes disk (above + 1)) fun _ here => here
    unfold makeFolders
    dsimp only
    split
    next =>
      have first := ih disk
      -- The folders above change the disk first, but not where the path starts on it.
      split
      next middle outcome =>
        rw [outcome] at first
        have last := (changes_ensureFolder written middle { path with names := path.names.take (above + 1) }).imp
          (fun place aimed => passes_home first.home (passes middle (above + 1) place aimed)) fun _ here => here
        exact first.trans last
      next fault middle outcome =>
        rw [outcome] at first
        exact first
    next => exact step

theorem aim_absolute (same : after.home = before.home) (path : Path) :
    after.aim (after.absolute path) = before.aim (before.absolute path) := by
  unfold aim absolute start
  rw [same]

theorem changes_openAtEnd (made : Place → Prop) {opened : Place × Disk} (ended : disk.openAtEnd path = .ok opened) :
    opened.1 = disk.aim path ∧ Changes made (· = disk.aim path) disk opened.2 := by
  unfold openAtEnd at ended
  cases found : disk.filePlace path with
  | error fault =>
    rw [found] at ended
    cases ended
  | ok place =>
    rw [found] at ended
    cases ended
    have led := locate_aim (filePlace_ok_iff.mp found).1
    exact ⟨led, changes_put disk _ led⟩

end Disk

end Files

namespace Logging

open Files (Disk Path)

/-- Where the log file of a path is. -/
def placeOf (disk : Disk) (path : Path) : Files.Place := disk.aim (disk.absolute path)

/-- Opening a log file makes folders that its path passes, and writes nothing but the file. -/
theorem changes_openFile (disk : Disk) (path : Path) :
    Disk.Changes (disk.Passes path.parent) (· = placeOf disk path) disk (openFile disk path).2 ∧
      ∀ place, (openFile disk path).1 = .ok place → place = placeOf disk path := by
  have folders := Disk.changes_makeFolders (· = placeOf disk path) disk path.parent path.parent.names.length
  unfold openFile
  dsimp only
  split
  next fault middle outcome =>
    rw [outcome] at folders
    refine ⟨folders, ?_⟩
    rintro _ ⟨⟩
  next middle outcome =>
    rw [outcome] at folders
    have aimed : middle.aim (middle.absolute path) = placeOf disk path := Disk.aim_absolute folders.home path
    split
    next place after opened =>
      obtain ⟨led, last⟩ := Disk.changes_openAtEnd (disk.Passes path.parent) opened
      rw [aimed] at led last
      refine ⟨folders.trans last, ?_⟩
      rintro _ ⟨⟩
      exact led
    next =>
      refine ⟨folders, ?_⟩
      rintro _ ⟨⟩

end Logging

end ElasticEndpoint
