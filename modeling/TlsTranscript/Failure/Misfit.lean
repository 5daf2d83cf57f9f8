import TlsTranscript.Text.Digits

/-!
# Data of a wrong type

Why data of some type are of no use where they stand, with one wording for each
cause. Types are given by their names.
-/

namespace TlsTranscript

/-- Why data of some type are of no use where they stand. -/
inductive Misfit where
  /-- Only integers are written in base sixteen. -/
  | notWritable (typeName : String)
  /-- A tuple to be written in base sixteen is empty. -/
  | nothingToWrite
  /-- A tuple to be written in base sixteen has several items. -/
  | tooMuchToWrite
  /-- The type has no written forms to choose from. -/
  | noForms (typeName : String)
  /-- The type has no items. -/
  | notIterable (typeName : String)
  /-- The type cannot be taken apart into two. -/
  | notDivisible (typeName : String)
  /-- A text stands where octets are needed. -/
  | textForOctets
  /-- The type cannot be turned into octets. -/
  | notOctets (typeName : String)
  /-- An item cannot be turned into an octet. -/
  | notAnOctet (typeName : String)
  /-- The type has no digest. -/
  | notDigestible
  /-- Nothing renders the type. -/
  | notRenderable (typeName : String)
  /-- A table of registries cannot be changed. -/
  | readOnlyTable
  /-- The type takes no entries. -/
  | notATable (typeName : String)
  /-- An octet string stands where a line is needed. -/
  | octetsForLine
  /-- The type is no content of a file. -/
  | notContent (typeName : String)
  /-- The type is no path. -/
  | notAPath (typeName : String)
  /-- The type is no name inside a directory. -/
  | notAName (typeName : String)
  /-- A directory and a name are not given in the same form. -/
  | mixedForms
  /-- The type is neither a path nor the number of an open file. -/
  | notASettingsFile (typeName : String)
  /-- The type is no key of a table. -/
  | notAKey (typeName : String)
  /-- The type does nothing that could be asked for. -/
  | notCallable (typeName : String)
  /-- The types cannot be multiplied. -/
  | notMultipliable (first second : String)
  /-- The type does not say how often something is repeated. -/
  | notACount (typeName : String)
  /-- The type is no number and no text of one. -/
  | notANumber (typeName : String)
  /-- The type writes no octets; nothing is told by its own name. -/
  | notHexadecimal (typeName : String)
  /-- The type is no text for the environment. -/
  | notForEnvironment (typeName : String)
  /-- The type is no index of a list. -/
  | notAnIndex (typeName : String)
  /-- What stands at an index has no items and so is no entry of a table. -/
  | entryWithoutItems (index : Nat)
  /-- The type does not say what a record is. -/
  | notAClass (typeName : String)
  /-- What a record is cannot be removed. -/
  | classRemoved
  /-- The type does not hold what a record holds. -/
  | notContents (typeName : String)
  /-- An operation was given another number of arguments than it takes. -/
  | wrongArguments
  deriving DecidableEq

/-- The wording of a misfit. -/
def Misfit.message : Misfit → String
  | .notWritable typeName => "%x format: an integer is required, not " ++ typeName
  | .nothingToWrite => "not enough arguments for format string"
  | .tooMuchToWrite => "not all arguments converted during string formatting"
  | .noForms typeName => "unsupported format string passed to " ++ typeName ++ ".__format__"
  | .notIterable typeName => "'" ++ typeName ++ "' object is not iterable"
  | .notDivisible typeName => "cannot unpack non-iterable " ++ typeName ++ " object"
  | .textForOctets => "string argument without an encoding"
  | .notOctets typeName => "cannot convert '" ++ typeName ++ "' object to bytes"
  | .notAnOctet typeName => "'" ++ typeName ++ "' object cannot be interpreted as an integer"
  | .notDigestible => "object supporting the buffer API required"
  | .notRenderable typeName => "no renderer for " ++ typeName
  | .readOnlyTable => "'mappingproxy' object does not support item assignment"
  | .notATable typeName => "'" ++ typeName ++ "' object does not support item assignment"
  | .octetsForLine => "a bytes-like object is required, not 'str'"
  | .notContent typeName => "a bytes-like object is required, not '" ++ typeName ++ "'"
  | .notAPath typeName => "expected str, bytes or os.PathLike object, not " ++ typeName
  | .notAName typeName =>
    "join() argument must be str, bytes, or os.PathLike object, not '" ++ typeName ++ "'"
  | .mixedForms => "Can't mix strings and bytes in path components"
  | .notASettingsFile typeName =>
    "stat: path should be string, bytes, os.PathLike or integer, not " ++ typeName
  | .notAKey typeName => "unhashable type: '" ++ typeName ++ "'"
  | .notCallable typeName => "'" ++ typeName ++ "' object is not callable"
  | .notMultipliable first second =>
    "unsupported operand type(s) for *: '" ++ first ++ "' and '" ++ second ++ "'"
  | .notACount typeName => "can't multiply sequence by non-int of type '" ++ typeName ++ "'"
  | .notANumber typeName =>
    "float() argument must be a string or a real number, not '" ++ typeName ++ "'"
  | .notHexadecimal typeName => "fromhex() argument must be str, not " ++ typeName
  | .notForEnvironment typeName => "str expected, not " ++ typeName
  | .notAnIndex typeName => "list indices must be integers or slices, not " ++ typeName
  | .entryWithoutItems index =>
    "cannot convert dictionary update sequence element #" ++ Text.decimal index ++
      " to a sequence"
  | .notAClass typeName => "__class__ must be set to a class, not '" ++ typeName ++ "' object"
  | .classRemoved => "can't delete __class__ attribute"
  | .notContents typeName =>
    "__dict__ must be set to a dictionary, not a '" ++ typeName ++ "'"
  | .wrongArguments => "wrong number of arguments"

end TlsTranscript
