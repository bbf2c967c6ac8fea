import AutoReply.Text.Encoding
import AutoReply.Text.Quoted

/-!
What can be wrong with a JSON text, and where.
-/

namespace AutoReply.Json

open AutoReply.Text

inductive Cause
  | endInList
  | endInObject
  | endInString
  | endInValue
  | colonExpected
  | listCommaOrEndExpected
  | objectCommaOrEndExpected
  | identExpected
  | valueExpected
  | quoteExpected
  | invalidEscape
  | invalidNumber
  | numberOutOfRange
  | invalidCharacter
  | controlCharacterInString
  | keyMustBeString
  | numericKeyExpected
  | loneSurrogate
  | endOfEscape
  | trailingComma
  | trailingCharacters
  | tooDeep
  /-- A value of one kind where another was expected. -/
  | wrongType (found expected : String)
  | wrongValue (found expected : String)
  | wrongLength (length : Nat) (expected : String)
  | duplicateField (name : String)
  | missingField (name : String)
  | unknownVariant (name : String) (expected : String)
  deriving DecidableEq

def Cause.message : Cause → String
  | endInList => "EOF while parsing a list"
  | endInObject => "EOF while parsing an object"
  | endInString => "EOF while parsing a string"
  | endInValue => "EOF while parsing a value"
  | colonExpected => "expected `:`"
  | listCommaOrEndExpected => "expected `,` or `]`"
  | objectCommaOrEndExpected => "expected `,` or `\x7d`"
  | identExpected => "expected ident"
  | valueExpected => "expected value"
  | quoteExpected => "expected `\"`"
  | invalidEscape => "invalid escape"
  | invalidNumber => "invalid number"
  | numberOutOfRange => "number out of range"
  | invalidCharacter => "invalid unicode code point"
  | controlCharacterInString =>
      "control character (\\u0000-\\u001F) found while parsing a string"
  | keyMustBeString => "key must be a string"
  | numericKeyExpected => "invalid value: expected key to be a number in quotes"
  | loneSurrogate => "lone leading surrogate in hex escape"
  | endOfEscape => "unexpected end of hex escape"
  | trailingComma => "trailing comma"
  | trailingCharacters => "trailing characters"
  | tooDeep => "recursion limit exceeded"
  | wrongType found expected => "invalid type: " ++ found ++ ", expected " ++ expected
  | wrongValue found expected => "invalid value: " ++ found ++ ", expected " ++ expected
  | wrongLength length expected =>
      "invalid length " ++ toString length ++ ", expected " ++ expected
  | duplicateField name => "duplicate field `" ++ name ++ "`"
  | missingField name => "missing field `" ++ name ++ "`"
  | unknownVariant name expected =>
      "unknown variant `" ++ name ++ "`, expected " ++ expected

/-- A point of a text, given by what follows it; `within` is one byte further, inside the next
symbol. -/
structure Place where
  rest : List Symbol
  within : Bool := false

structure Fault where
  cause : Cause
  place : Option Place

def lineAndColumn : List Symbol → Nat × Nat
  | content =>
      content.foldl (fun (line, column) symbol =>
        if symbol = some '\n' then (line + 1, 0) else (line, column + symbolWidth symbol)) (1, 0)

def Place.position (whole : List Symbol) (place : Place) : Nat × Nat :=
  let (line, column) := lineAndColumn (whole.take (whole.length - place.rest.length))
  if !place.within then (line, column)
  else match place.rest with
    | [] => (line, column)
    | some '\n' :: _ => (line + 1, 0)
    | _ => (line, column + 1)

def Fault.message (whole : List Symbol) (fault : Fault) : String :=
  match fault.place with
  | none => fault.cause.message
  | some place =>
      let (line, column) := place.position whole
      fault.cause.message ++ " at line " ++ toString line ++ " column " ++ toString column

end AutoReply.Json
