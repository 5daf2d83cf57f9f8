import TlsTranscript.Text.Digits
import TlsTranscript.Text.Quoted

/-!
# Problems of unchecked data

A problem says where in the data something is wrong and what it is. Each cause
has a short code and a wording.
-/

namespace TlsTranscript

/-- A step on the way into a datum. -/
inductive Place where
  /-- Into a named field. -/
  | field (name : String)
  /-- Into an item of a list. -/
  | item (index : Nat)
  deriving DecidableEq

/-- What is wrong with a datum. -/
inductive Defect where
  /-- A field is not there. -/
  | missing
  /-- Not an integer and nothing that stands for one. -/
  | notInteger
  /-- A text that writes no integer. -/
  | unreadableInteger
  /-- A number with too many digits. -/
  | integerTooLong
  /-- A number with a fraction. -/
  | fraction
  /-- A number that is not finite. -/
  | notFinite
  /-- A negative number. -/
  | negative
  /-- A number above the limit of its field. -/
  | aboveLimit (limit : Nat)
  /-- Not an octet string. -/
  | notOctets
  /-- Not a text. -/
  | notText
  /-- Octets that are no text. -/
  | undecodableText
  /-- Not a list. -/
  | notList
  /-- Not a pair. -/
  | notPair
  /-- A pair with more than two items, how many if they were counted. -/
  | tooManyItems (count : Option Nat)
  /-- Another tag than this one. -/
  | wrongTag (expected : String)
  /-- Neither a model of this name nor a table of its fields. -/
  | notModel (name : String)
  /-- Not a record at all. -/
  | notRecord
  /-- A record without a tag. -/
  | noTag
  /-- A tag, shown here, that is none of the expected ones. -/
  | unknownTag (shown : String) (expected : List String)
  /-- An attempt to change a model. -/
  | frozen
  deriving DecidableEq

/-- Something wrong at a place. -/
structure Problem where
  /-- The way to the place. -/
  place : List Place
  /-- What is wrong there. -/
  defect : Defect
  deriving DecidableEq

namespace Defect

/-- The code of a defect. -/
def code : Defect → String
  | .missing => "missing"
  | .notInteger => "int_type"
  | .unreadableInteger => "int_parsing"
  | .integerTooLong => "int_parsing_size"
  | .fraction => "int_from_float"
  | .notFinite => "finite_number"
  | .negative => "greater_than_equal"
  | .aboveLimit _ => "less_than_equal"
  | .notOctets => "bytes_type"
  | .notText => "string_type"
  | .undecodableText => "string_unicode"
  | .notList => "list_type"
  | .notPair => "tuple_type"
  | .tooManyItems _ => "too_long"
  | .wrongTag _ => "literal_error"
  | .notModel _ => "model_type"
  | .notRecord => "model_attributes_type"
  | .noTag => "union_tag_not_found"
  | .unknownTag _ _ => "union_tag_invalid"
  | .frozen => "frozen_instance"

/-- The wording of a defect. -/
def message : Defect → String
  | .missing => "Field required"
  | .notInteger => "Input should be a valid integer"
  | .unreadableInteger =>
    "Input should be a valid integer, unable to parse string as an integer"
  | .integerTooLong => "Unable to parse input string as an integer, exceeded maximum size"
  | .fraction => "Input should be a valid integer, got a number with a fractional part"
  | .notFinite => "Input should be a finite number"
  | .negative => "Input should be greater than or equal to 0"
  | .aboveLimit limit => "Input should be less than or equal to " ++ Text.decimal limit
  | .notOctets => "Input should be a valid bytes"
  | .notText => "Input should be a valid string"
  | .undecodableText =>
    "Input should be a valid string, unable to parse raw data as a unicode string"
  | .notList => "Input should be a valid list"
  | .notPair => "Input should be a valid tuple"
  | .tooManyItems count =>
    "Tuple should have at most 2 items after validation, not " ++
      (match count with
        | some count => Text.decimal count
        | none => "more")
  | .wrongTag expected => "Input should be " ++ Text.inQuotes expected
  | .notModel name => "Input should be a valid dictionary or instance of " ++ name
  | .notRecord => "Input should be a valid dictionary or object to extract fields from"
  | .noTag => "Unable to extract tag using discriminator 'type'"
  | .unknownTag shown expected =>
    "Input tag " ++ Text.inQuotes shown ++
      " found using 'type' does not match any of the expected tags: " ++
      ", ".intercalate (expected.map Text.inQuotes)
  | .frozen => "Instance is frozen"

end Defect

/-- A problem seen from further out. -/
def Problem.within (step : Place) (problem : Problem) : Problem :=
  { problem with place := step :: problem.place }

end TlsTranscript
