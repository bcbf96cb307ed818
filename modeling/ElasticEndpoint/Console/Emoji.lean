import ElasticEndpoint.Console.Emoji.Names
import ElasticEndpoint.Text.Blank
import ElasticEndpoint.Text.Case
import ElasticEndpoint.Text.Split

/-!
Emoji by name. A name between colons stands for its emoji; the name may end in the wish to show the
emoji in color or as plain text. Between two colons that hold no name everything stays as it is.
-/

namespace ElasticEndpoint.Console.Emoji

def pairs : List (List Char) → List (String × String)
  | name :: emoji :: rest => (String.ofList name, String.ofList emoji) :: pairs rest
  | _ => []

def table : List (String × String) := nameLines.flatMap fun line => pairs (Text.splitOn ' ' line.toList)

/-- Whether a character can stand in a name; among ASCII few can. -/
def isNameChar (c : Char) : Bool :=
  c.isAlphanum || 128 ≤ c.toNat || "_-+().&!#*".toList.contains c

def ofName? (name : List Char) : Option String :=
  if name.isEmpty || !name.all isNameChar then none
  else table.lookup (String.ofList (Text.toLower name))

/-- The endings by which a name wishes for a form of its emoji, with the character for it. -/
def forms : List (String × Char) := [("-emoji", '\ufe0f'), ("-text", '\ufe0e')]

/-- A name without the ending that wishes for a form, and the form. -/
def splitForm (name : List Char) : List Char × List Char :=
  match forms.find? fun form => form.1.toList.isSuffixOf name with
  | some (ending, form) => (name.take (name.length - ending.length), [form])
  | none => (name, [])

/-- What stands between two colons, with its emoji in their stead if it names one. -/
def shown (between : List Char) : List Char :=
  let (name, form) := splitForm between
  match ofName? name with
  | some emoji => emoji.toList ++ form
  | none => ':' :: between ++ [':']

/-- Joins the parts of a text between colons, with emoji in the stead of their names. No name holds
a blank, and a colon belongs to one name only. -/
def joinParts : List (List Char) → List Char
  | [] => []
  | [part] => part
  | part :: name :: rest =>
    match rest with
    | [] => part ++ ':' :: name
    | next :: more =>
      if name.any Text.isBlank then part ++ ':' :: joinParts (name :: next :: more)
      else part ++ shown name ++ joinParts (next :: more)

def replace (text : List Char) : List Char := joinParts (Text.splitOn ':' text)

end ElasticEndpoint.Console.Emoji
