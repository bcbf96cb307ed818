import ElasticEndpoint.Yaml.Place

/-!
Tokens of a YAML stream. Indentation is turned into tokens that open and close block collections,
so everything after this stage can forget about lines and columns except for reports.
-/

namespace ElasticEndpoint.Yaml

/-- A tag as written: a handle to be looked up, if there is one, and a suffix. -/
structure TagName where
  handle : Option (List Char)
  suffix : List Char
  deriving DecidableEq

/-- A directive: the version of the format, a handle for tags, or one to be ignored. -/
inductive Directive where
  | version (major minor : Nat)
  | tag (handle start : List Char)
  | other
  deriving DecidableEq

/-- The content of a scalar. Halves of pairs of code units stand in it as replacement characters, and
are listed with their places. -/
structure ScalarText where
  chars : List Char
  halves : List (Nat × Nat) := []
  deriving DecidableEq, Inhabited

def ScalarText.points (content : ScalarText) : List Nat :=
  content.chars.zipIdx.map fun entry => (content.halves.lookup entry.2).getD entry.1.toNat

inductive TokenKind where
  | streamEnd
  | directive (d : Directive)
  | documentStart
  | documentEnd
  | blockSequenceStart
  | blockMappingStart
  | blockEnd
  | flowSequenceStart
  | flowMappingStart
  | flowSequenceEnd
  | flowMappingEnd
  | key
  | value
  | blockEntry
  | flowEntry
  | alias (name : List Char)
  | anchor (name : List Char)
  | tag (name : TagName)
  | scalar (plain : Bool) (content : ScalarText)
  deriving DecidableEq

structure Token where
  kind : TokenKind
  start : Place
  stop : Place
  deriving DecidableEq

def TokenKind.shown : TokenKind → String
  | .streamEnd => "<stream end>"
  | .directive _ => "<directive>"
  | .documentStart => "<document start>"
  | .documentEnd => "<document end>"
  | .blockSequenceStart => "<block sequence start>"
  | .blockMappingStart => "<block mapping start>"
  | .blockEnd => "<block end>"
  | .flowSequenceStart => "["
  | .flowMappingStart => "\x7b"
  | .flowSequenceEnd => "]"
  | .flowMappingEnd => "\x7d"
  | .key => "?"
  | .value => ":"
  | .blockEntry => "-"
  | .flowEntry => ","
  | .alias _ => "<alias>"
  | .anchor _ => "<anchor>"
  | .tag _ => "<tag>"
  | .scalar .. => "<scalar>"

end ElasticEndpoint.Yaml
