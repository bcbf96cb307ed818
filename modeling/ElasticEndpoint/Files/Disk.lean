import ElasticEndpoint.Files.Fault
import ElasticEndpoint.Files.Path

/-!
Disks. A disk holds folders and files at places, and a place is told by the names on the way from
the root. A path leads to a place by its names one after another, each taken in the folder that the
names before it lead to. The folders above the one that the program runs in always exist. A file
that is put at a place is what is found there, and nothing changes at any other place.
-/

namespace ElasticEndpoint.Files

/-- Where something stands on a disk: the names on the way from the root. -/
abbrev Place := List String

structure Disk where
  home : Place := []
  folders : List Place := []
  files : List (Place × String) := []

namespace Disk

def hasFolder (disk : Disk) (place : Place) : Bool :=
  place.isPrefixOf disk.home || disk.folders.contains place

def textAt? (disk : Disk) (place : Place) : Option String := disk.files.lookup place

/-- The disk with a file at a place, in the stead of the one that was there. -/
def put (disk : Disk) (place : Place) (text : String) : Disk :=
  if (disk.textAt? place).isSome then
    { disk with files := disk.files.map fun file => if file.1 = place then (place, text) else file }
  else { disk with files := disk.files ++ [(place, text)] }

private theorem lookup_map_self (files : List (Place × String)) (place : Place) (text : String)
    (there : (files.lookup place).isSome) :
    (files.map fun file => if file.1 = place then (place, text) else file).lookup place = some text := by
  induction files with
  | nil => simp at there
  | cons file rest ih =>
    obtain ⟨name, content⟩ := file
    by_cases same : name = place
    · simp [same]
    · have differs : (place == name) = false := beq_eq_false_iff_ne.2 (Ne.symm same)
      rw [List.lookup_cons, differs] at there
      rw [List.map_cons, if_neg same, List.lookup_cons, differs]
      exact ih there

private theorem lookup_map_of_ne (files : List (Place × String)) {place other : Place} (text : String)
    (apart : other ≠ place) :
    (files.map fun file => if file.1 = place then (place, text) else file).lookup other =
      files.lookup other := by
  induction files with
  | nil => rfl
  | cons file rest ih =>
    obtain ⟨name, content⟩ := file
    have differs : (other == place) = false := beq_eq_false_iff_ne.2 apart
    by_cases same : name = place
    · rw [List.map_cons, if_pos same, List.lookup_cons, List.lookup_cons, same, differs]
      exact ih
    · rw [List.map_cons, if_neg same, List.lookup_cons, List.lookup_cons, ih]

theorem textAt?_put_self (disk : Disk) (place : Place) (text : String) :
    (disk.put place text).textAt? place = some text := by
  unfold put
  split
  · next there => exact lookup_map_self disk.files place text there
  · next absent =>
    simp only [textAt?, Option.not_isSome_iff_eq_none] at absent
    simp [textAt?, List.lookup_append, absent]

theorem textAt?_put_of_ne (disk : Disk) {place other : Place} (text : String) (apart : other ≠ place) :
    (disk.put place text).textAt? other = disk.textAt? other := by
  unfold put
  split
  · exact lookup_map_of_ne disk.files text apart
  · have differs : (other == place) = false := beq_eq_false_iff_ne.2 apart
    simp [textAt?, List.lookup_append, List.lookup_cons, differs]

def nameLimit : Nat := 255

def pathLimit : Nat := 4096

/-- The place that names lead to, from a folder. Only the last of them may be missing. -/
def follow (disk : Disk) (place : Place) : List String → Except Cause Place
  | [] => .ok place
  | name :: rest =>
    if !disk.hasFolder place then
      .error (if (disk.textAt? place).isSome then .notFolder else .missing)
    else if nameLimit < name.utf8ByteSize then .error .nameTooLong
    else disk.follow (if name == ".." then place.dropLast else place ++ [name]) rest

def start (disk : Disk) (path : Path) : Place := if path.isAbsolute then [] else disk.home

def locate (disk : Disk) (path : Path) : Except Cause Place :=
  if !path.isNameable then .error .unnameable
  else if pathLimit ≤ path.text.utf8ByteSize then .error .nameTooLong
  else disk.follow (disk.start path) path.names

/-- Whether there is a folder or a file where a path leads. A path that leads nowhere is no fault
unless a name in it is too long. -/
def pathExists (disk : Disk) (path : Path) : Except Fault Bool :=
  match disk.locate path with
  | .ok place => .ok (disk.hasFolder place || (disk.textAt? place).isSome)
  | .error .nameTooLong => .error ⟨.nameTooLong, path.text⟩
  | .error _ => .ok false

/-- The place of the file that a path leads to, for writing: there must not be a folder. -/
def filePlace (disk : Disk) (path : Path) : Except Fault Place :=
  match disk.locate path with
  | .error cause => .error ⟨cause, path.text⟩
  | .ok place => if disk.hasFolder place then .error ⟨.isFolder, path.text⟩ else .ok place

def read (disk : Disk) (path : Path) : Except Fault String := do
  let place ← disk.filePlace path
  match disk.textAt? place with
  | some text => return text
  | none => .error ⟨.missing, path.text⟩

def append (disk : Disk) (place : Place) (text : String) : Disk :=
  disk.put place ((disk.textAt? place).getD "" ++ text)

/-- The disk once the file at a place was opened for writing anew, which empties it, and a text was
written. -/
def rewrite (disk : Disk) (place : Place) (text : String) : Disk := (disk.put place "").append place text

theorem textAt?_rewrite_self (disk : Disk) (place : Place) (text : String) :
    (disk.rewrite place text).textAt? place = some text := by
  unfold rewrite append
  rw [textAt?_put_self, textAt?_put_self, Option.getD_some, String.empty_append]

theorem textAt?_rewrite_of_ne (disk : Disk) {place other : Place} (text : String) (apart : other ≠ place) :
    (disk.rewrite place text).textAt? other = disk.textAt? other := by
  unfold rewrite append
  rw [textAt?_put_of_ne _ _ apart, textAt?_put_of_ne _ _ apart]

def write (disk : Disk) (path : Path) (text : String) : Except Fault Disk :=
  return disk.rewrite (← disk.filePlace path) text

def makeFolder (disk : Disk) (path : Path) : Except Fault Disk :=
  match disk.locate path with
  | .error cause => .error ⟨cause, path.text⟩
  | .ok place =>
    if disk.hasFolder place || (disk.textAt? place).isSome then .error ⟨.exists, path.text⟩
    else .ok { disk with folders := disk.folders ++ [place] }

def leadsToFolder (disk : Disk) (path : Path) : Bool :=
  match disk.locate path with
  | .ok place => disk.hasFolder place
  | .error _ => false

def ensureFolder (disk : Disk) (path : Path) : Option Fault × Disk :=
  match disk.makeFolder path with
  | .ok disk => (none, disk)
  | .error fault =>
    (if fault.cause != .missing && disk.leadsToFolder path then none else some fault, disk)

/-- Makes the folder at the first so many names of a path, and those above it that are missing. What
was made before a fault stays. -/
def makeFolders (disk : Disk) (path : Path) : Nat → Option Fault × Disk
  | 0 => disk.ensureFolder { path with names := [] }
  | above + 1 =>
    let step : Path := { path with names := path.names.take (above + 1) }
    match disk.ensureFolder step with
    | (some ⟨.missing, _⟩, _) =>
      match disk.makeFolders path above with
      | (none, disk) => disk.ensureFolder step
      | (some fault, disk) => (some fault, disk)
    | outcome => outcome

/-- The path from the root for a path, with every double dot taken back together with the name
before it. -/
def absolute (disk : Disk) (path : Path) : Path where
  anchor := if path.isAbsolute then path.anchor else "/"
  names := (disk.start path ++ path.names).foldl
    (fun names name => if name == ".." then names.dropLast else names ++ [name]) []

/-- Opens a file for writing at its end; a missing one is made. -/
def openAtEnd (disk : Disk) (path : Path) : Except Fault (Place × Disk) := do
  let place ← disk.filePlace path
  return (place, disk.append place "")

end Disk

end ElasticEndpoint.Files
