import ElasticEndpoint.Yaml.Token
import ElasticEndpoint.Text.Quoted
import ElasticEndpoint.Text.Digit
import ElasticEndpoint.Text.Utf8

/-!
Faults of a YAML text. A fault names what was being read, where that began, what was wrong with it
and where. Faults that come from the conversion of a single scalar name no place.
-/

namespace ElasticEndpoint.Yaml

/-- The four stages in which a fault with a place can arise. -/
inductive Stage where
  | scanning
  | parsing
  | composing
  | constructing
  deriving DecidableEq

inductive Activity where
  | nextToken
  | simpleKey
  | directive
  | directiveAddress
  | alias
  | anchor
  | tag
  | tagAddress
  | blockScalar
  | doubleQuoted
  | quotedScalar
  | node
  | blockNode
  | flowNode
  | blockCollection
  | blockMapping
  | flowSequence
  | flowMapping
  | firstAnchor (name : List Char)
  | onlyDocument
  | mapping
  | orderedMap
  | pairs
  deriving DecidableEq

def Activity.message : Activity → String
  | .nextToken => "while scanning for the next token"
  | .simpleKey => "while scanning a simple key"
  | .directive => "while scanning a directive"
  | .directiveAddress => "while parsing a directive"
  | .alias => "while scanning an alias"
  | .anchor => "while scanning an anchor"
  | .tag => "while scanning a tag"
  | .tagAddress => "while parsing a tag"
  | .blockScalar => "while scanning a block scalar"
  | .doubleQuoted => "while scanning a double-quoted scalar"
  | .quotedScalar => "while scanning a quoted scalar"
  | .node => "while parsing a node"
  | .blockNode => "while parsing a block node"
  | .flowNode => "while parsing a flow node"
  | .blockCollection => "while parsing a block collection"
  | .blockMapping => "while parsing a block mapping"
  | .flowSequence => "while parsing a flow sequence"
  | .flowMapping => "while parsing a flow mapping"
  | .firstAnchor name => s!"found duplicate anchor {Text.quoted (String.ofList name)}; first occurrence"
  | .onlyDocument => "expected a single document in the stream"
  | .mapping => "while constructing a mapping"
  | .orderedMap => "while constructing an ordered map"
  | .pairs => "while constructing pairs"

inductive NodeKind where
  | scalar
  | sequence
  | mapping
  deriving DecidableEq

def NodeKind.message : NodeKind → String
  | .scalar => "scalar"
  | .sequence => "sequence"
  | .mapping => "mapping"

inductive Problem where
  | expected (what : String) (found : Option Char)
  | cannotStartToken (found : Option Char)
  | missingColon
  | entryNotAllowed
  | keyNotAllowed
  | valueNotAllowed
  | zeroIndentation
  | unknownEscape (found : Option Char)
  | endOfStream
  | documentSeparator
  | illFormedAddress (part : Text.Utf8.IllFormed) (first : UInt8)
  | expectedToken (what : String) (found : TokenKind)
  | expectedFlow (what : String) (found : TokenKind)
  | repeatedVersion
  | incompatibleVersion
  | repeatedHandle (handle : List Char)
  | undefinedHandle (handle : List Char)
  | undefinedAlias (name : List Char)
  | secondAnchor
  | anotherDocument
  | expectedNode (what : NodeKind) (found : NodeKind)
  | expectedSequence (found : NodeKind)
  | expectedSingleMapping (found : NodeKind)
  | expectedSingleItem (count : Nat)
  | expectedMergeMapping (found : NodeKind)
  | expectedMerge (found : NodeKind)
  | unhashableKey
  | unknownTag (tag : List Char)
  | notAscii (position count : Nat) (first : Char)
  | badBase64 (reason : String)
  deriving DecidableEq

/-- A character as reports quote it; the end of the text is quoted as the null character. -/
def quotedFound (found : Option Char) : String :=
  Text.quoted (String.ofList [found.getD (Char.ofNat 0)])

def Problem.message : Problem → String
  | .expected what found => s!"expected {what}, but found {quotedFound found}"
  | .cannotStartToken found => s!"found character {quotedFound found} that cannot start any token"
  | .missingColon => "could not find expected ':'"
  | .entryNotAllowed => "sequence entries are not allowed here"
  | .keyNotAllowed => "mapping keys are not allowed here"
  | .valueNotAllowed => "mapping values are not allowed here"
  | .zeroIndentation => "expected indentation indicator in the range 1-9, but found 0"
  | .unknownEscape found => s!"found unknown escape character {quotedFound found}"
  | .endOfStream => "found unexpected end of stream"
  | .documentSeparator => "found unexpected document separator"
  | .illFormedAddress part first =>
    "'utf-8' codec can't decode " ++
      (if part.length ≤ 1 then s!"byte 0x{String.ofList (Text.hexadecimal 2 first.toNat)} in position {part.position}"
      else s!"bytes in position {part.position}-{part.position + part.length - 1}") ++
      s!": {part.defect.message}"
  | .expectedToken what found => s!"expected {what}, but found {Text.quoted found.shown}"
  | .expectedFlow what found => s!"expected {what}, but got {Text.quoted found.shown}"
  | .repeatedVersion => "found duplicate YAML directive"
  | .incompatibleVersion => "found incompatible YAML document (version 1.* is required)"
  | .repeatedHandle handle => s!"duplicate tag handle {Text.quoted (String.ofList handle)}"
  | .undefinedHandle handle => s!"found undefined tag handle {Text.quoted (String.ofList handle)}"
  | .undefinedAlias name => s!"found undefined alias {Text.quoted (String.ofList name)}"
  | .secondAnchor => "second occurrence"
  | .anotherDocument => "but found another document"
  | .expectedNode what found => s!"expected a {what.message} node, but found {found.message}"
  | .expectedSequence found => s!"expected a sequence, but found {found.message}"
  | .expectedSingleMapping found => s!"expected a mapping of length 1, but found {found.message}"
  | .expectedSingleItem count => s!"expected a single mapping item, but found {count} items"
  | .expectedMergeMapping found => s!"expected a mapping for merging, but found {found.message}"
  | .expectedMerge found => s!"expected a mapping or list of mappings for merging, but found {found.message}"
  | .unhashableKey => "found unhashable key"
  | .unknownTag tag => s!"could not determine a constructor for the tag {Text.quoted (String.ofList tag)}"
  | .notAscii position count first =>
    "failed to convert base64 data into ascii: 'ascii' codec can't encode " ++
      (if count ≤ 1 then
        s!"character '{String.ofList (Text.hexEscape first.toNat)}' in position {position}"
      else s!"characters in position {position}-{position + count - 1}") ++
      ": ordinal not in range(128)"
  | .badBase64 reason => s!"failed to decode base64 data: {reason}"

/-- Why a scalar cannot be converted to what its tag asks for. -/
inductive ConversionFault where
  | notInteger (base : Nat) (text : List Char)
  | notNumber (text : List Char)
  | tooManyDigits (count : Nat)
  | noCharacters
  | notBoolean (text : List Char)
  | notMoment
  | momentOfMapping
  | baseTooLarge
  | yearRange (year : Nat)
  | monthRange
  | dayRange
  | hourRange
  | minuteRange
  | secondRange
  | offsetRange (shown : String)
  | codePointRange
  | codePointOverflow
  deriving DecidableEq

def ConversionFault.message : ConversionFault → String
  | .notInteger base text => s!"invalid literal for int() with base {base}: {Text.quoted (String.ofList text)}"
  | .notNumber text => s!"could not convert string to float: {Text.quoted (String.ofList text)}"
  | .tooManyDigits count =>
    s!"Exceeds the limit ({Text.digitLimit} digits) for integer string conversion: value has {count} digits; " ++
      "use sys.set_int_max_str_digits() to increase the limit"
  | .noCharacters => "string index out of range"
  | .notBoolean text => Text.quoted (String.ofList text)
  | .notMoment => "'NoneType' object has no attribute 'groupdict'"
  | .momentOfMapping => "expected string or bytes-like object, got 'list'"
  | .baseTooLarge => "int too large to convert to float"
  | .yearRange year => s!"year {year} is out of range"
  | .monthRange => "month must be in 1..12"
  | .dayRange => "day is out of range for month"
  | .hourRange => "hour must be in 0..23"
  | .minuteRange => "minute must be in 0..59"
  | .secondRange => "second must be in 0..59"
  | .offsetRange shown =>
    "offset must be a timedelta strictly between -timedelta(hours=24) and timedelta(hours=24), " ++
      s!"not {shown}."
  | .codePointRange => "chr() arg not in range(0x110000)"
  | .codePointOverflow => "Python int too large to convert to C int"

/-- A fault of a YAML text. -/
inductive Fault where
  | unreadable (found : Char) (position : Nat)
  | marked (stage : Stage) (activity : Option (Activity × Option Place)) (problem : Problem) (place : Place)
  | conversion (fault : ConversionFault)
  /-- Collections stand in one another too deep to be read, or a text is that of its own collection. -/
  | tooDeep
  deriving DecidableEq

def Fault.place? : Fault → Option Place
  | .marked _ _ _ place => some place
  | _ => none

/-- A fault as text, for the file of a name. The place of the activity is left out when it is the
place of the problem. -/
def Fault.message (name : String) : Fault → String
  | .unreadable found position =>
    s!"unacceptable character #x{String.ofList (Text.hexadecimal 4 found.toNat)}: " ++
      s!"special characters are not allowed\n  in \"{name}\", position {position}"
  | .marked _ activity problem place =>
    let context := match activity with
      | none => []
      | some (activity, start) =>
        activity.message :: match start with
          | none => []
          | some start =>
            if start.line == place.line && start.column == place.column then [] else [start.shown name]
    "\n".intercalate (context ++ [problem.message, place.shown name])
  | .conversion fault => fault.message
  | .tooDeep => "maximum recursion depth exceeded"

end ElasticEndpoint.Yaml
