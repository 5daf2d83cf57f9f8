import TlsTranscript.Text.Quoted

/-!
# Calls that cannot be made

Why an operation cannot be called with the arguments that it is given, with one
wording for each cause.
-/

namespace TlsTranscript

/-- Why an operation cannot be called as it is. An operation is given by its
name. -/
inductive CallFault where
  /-- An argument has a name that no parameter has. -/
  | unknownName (operation name : String)
  /-- A parameter is given twice. -/
  | givenTwice (operation name : String)
  /-- More arguments are given than there are parameters, from the least number
  of arguments up to the greatest. -/
  | tooMany (operation : String) (least greatest count : Nat)
  /-- Parameters that must be given are not. -/
  | missing (operation : String) (names : List String)
  /-- No argument is given by position. -/
  | nothingGiven (operation : String)
  /-- A name of an argument is no text. -/
  | nameNotText
  deriving DecidableEq

/-- Names in single quotes as a list in a sentence. -/
def enumeration (names : List String) : String :=
  match names.map Text.inQuotes with
  | [] => ""
  | [only] => only
  | [first, second] => first ++ " and " ++ second
  | quoted => ", ".intercalate quoted.dropLast ++ ", and " ++ quoted.getLastD ""

/-- A number of things, the noun in the plural unless there is one. -/
def counted (count : Nat) (noun : String) : String :=
  Text.decimal count ++ " " ++ noun ++ (if count = 1 then "" else "s")

/-- How many arguments an operation takes by position. -/
def takenText (least greatest : Nat) : String :=
  if least = greatest then counted greatest "positional argument"
  else "from " ++ Text.decimal least ++ " to " ++ Text.decimal greatest ++ " positional arguments"

/-- The wording of a call that cannot be made. -/
def CallFault.message : CallFault → String
  | .unknownName operation name =>
    operation ++ "() got an unexpected keyword argument " ++ Text.inQuotes name
  | .givenTwice operation name =>
    operation ++ "() got multiple values for argument " ++ Text.inQuotes name
  | .tooMany operation least greatest count =>
    operation ++ "() takes " ++ takenText least greatest ++ " but " ++ Text.decimal count ++
      (if count = 1 then " was" else " were") ++ " given"
  | .missing operation names =>
    operation ++ "() missing " ++ counted names.length "required positional argument" ++ ": " ++
      enumeration names
  | .nothingGiven operation => operation ++ " requires at least 1 positional argument"
  | .nameNotText => "keywords must be strings"

end TlsTranscript
