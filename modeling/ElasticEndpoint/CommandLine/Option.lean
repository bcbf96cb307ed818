import ElasticEndpoint.Text.Integer

/-!
Options of a command line. An option has a name that follows two dashes, and maybe a letter that
follows one; letters can be run together. The value of an option is the next argument unless it
stands behind an equals sign, or right behind the letter. Two dashes alone end the options. An
argument that fits nothing is refused.
-/

namespace ElasticEndpoint.CommandLine

structure Opt where
  name : String
  letter : Option Char := none
  hasValue : Bool := true
  deriving DecidableEq

/-- The options given, in order and with their values, and the arguments that are none. -/
structure Given where
  values : List (String × String) := []
  rest : List String := []
  deriving DecidableEq

namespace Given

def andOption (given : Given) (option : Opt) (value : String) : Given :=
  { given with values := (option.name, value) :: given.values }

def andArgument (given : Given) (argument : String) : Given :=
  { given with rest := argument :: given.rest }

/-- The value of an option; of several the last counts. -/
def value? (given : Given) (name : String) : Option String := given.values.reverse.lookup name

def has (given : Given) (name : String) : Bool := (given.value? name).isSome

end Given

namespace Opt

/-- What an argument that begins with a dash says: options with their values, and the option whose
value is still to come. -/
structure Reading where
  values : List (Opt × String) := []
  waiting : Option Opt := none

def named? (options : List Opt) (name : String) : Option Opt := options.find? (·.name == name)

def lettered? (options : List Opt) (letter : Char) : Option Opt :=
  options.find? (·.letter == some letter)

def readLong (options : List Opt) (text : List Char) : Option Reading := do
  let option ← named? options (String.ofList (text.takeWhile (· != '=')))
  if text.contains '=' then
    if option.hasValue then
      return { values := [(option, String.ofList ((text.dropWhile (· != '=')).drop 1))] }
    else none
  else if option.hasValue then return { waiting := some option }
  else return { values := [(option, "")] }

def readLetters (options : List Opt) : List Char → Option Reading
  | [] => some {}
  | letter :: rest => do
    let option ← lettered? options letter
    if option.hasValue then
      if rest.isEmpty then return { waiting := some option }
      else return { values := [(option, String.ofList rest)] }
    else
      let reading ← readLetters options rest
      return { reading with values := (option, "") :: reading.values }

/-- Reads an argument, if it is one that begins with a dash and goes on. -/
def readDashed? (options : List Opt) (argument : String) : Option (Option Reading) :=
  match argument.toList with
  | '-' :: '-' :: text => some (readLong options text)
  | '-' :: letter :: text => some (readLetters options (letter :: text))
  | _ => none

/-- Reads arguments, of which the first may be the value that an option waits for. The options end
at the first argument that is none unless both may be mixed. -/
def readAfter (options : List Opt) (mixed : Bool) : Option Opt → List String → Option Given
  | some option, value :: rest => (readAfter options mixed none rest).map (·.andOption option value)
  | some _, [] => none
  | none, [] => some {}
  | none, argument :: rest =>
    if argument == "--" then some { rest := rest }
    else match readDashed? options argument with
      | none =>
        if mixed then (readAfter options mixed none rest).map (·.andArgument argument)
        else some { rest := argument :: rest }
      | some none => none
      | some (some reading) =>
        (readAfter options mixed reading.waiting rest).map fun given =>
          reading.values.foldr (fun (option, value) given => given.andOption option value) given

def read (options : List Opt) (mixed : Bool) (arguments : List String) : Option Given :=
  readAfter options mixed none arguments

end Opt

/-- An option's value as an integer; too many digits are refused. -/
def integer? (value : String) : Option Int :=
  match Text.signedDigits? 10 value.toList with
  | some (_, digits) =>
    if digits.length ≤ Text.digitLimit then Text.readInteger? 10 value.toList else none
  | none => none

end ElasticEndpoint.CommandLine
