import ElasticEndpoint.Text.Split

/-!
Paths. A path starts where the program runs, at the root, or at the root written with two slashes,
and goes on by names; repeated slashes and single dots say nothing.
-/

namespace ElasticEndpoint.Files

structure Path where
  anchor : String
  names : List String
  deriving DecidableEq

namespace Path

def anchorOf : Nat → String
  | 0 => ""
  | 2 => "//"
  | _ => "/"

def ofText (text : String) : Path :=
  let slashes := (text.toList.takeWhile (· == '/')).length
  let names := (Text.splitOn '/' text.toList).map String.ofList
  ⟨anchorOf slashes, names.filter fun name => name != "" && name != "."⟩

/-- A path as text; the path without names that starts where the program runs is a dot. -/
def text (path : Path) : String :=
  if path.anchor.isEmpty && path.names.isEmpty then "."
  else path.anchor ++ "/".intercalate path.names

/-- Whether a path can be named: none of its names holds the character that ends a name for the
system. -/
def isNameable (path : Path) : Bool := path.names.all fun name => !name.toList.contains '\x00'

def isAbsolute (path : Path) : Bool := !path.anchor.isEmpty

def parent (path : Path) : Path := { path with names := path.names.dropLast }

end Path

end ElasticEndpoint.Files
