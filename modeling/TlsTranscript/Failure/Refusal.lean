import TlsTranscript.Files.Path
import TlsTranscript.Text.Digits

/-!
# Refused data

Why data of the right type are refused, with one wording for each cause: they are
out of range, nothing can hold them, or the machine has no use for them.
-/

namespace TlsTranscript

/-- Why data of the right type are refused. -/
inductive Refusal where
  /-- An item is no octet. -/
  | octetOutOfRange
  /-- A count is negative. -/
  | negativeCount
  /-- The type has other written forms than that in base sixteen. -/
  | unknownForm (typeName : String)
  /-- What stands at an index has another number of items than an entry of a table. -/
  | notAnEntry (index count : Nat)
  /-- No registry is of this kind; the kind is given by its literal. -/
  | unknownKind (literal : String)
  /-- Something to be taken apart into two has fewer items. -/
  | tooFewParts (count : Nat)
  /-- Something to be taken apart into two has more items. -/
  | tooManyParts
  /-- No variable of the environment may have this name. -/
  | illegalName
  /-- A text for the environment holds a character that it may not hold. -/
  | embeddedNul
  /-- The octets of a path hold a NUL, where a call of the machine finds it. -/
  | nulInOctets (call : String)
  /-- The number of an open file is negative. -/
  | negativeHandle
  /-- A time is not a number. -/
  | timeNotANumber
  /-- An integer has too many digits to be shown in decimal. -/
  | tooManyDigits
  /-- A text that should write octets in base sixteen does not at an index. -/
  | unreadableOctets (index : Nat)
  /-- A text writes no number; the text is given by its literal. -/
  | unreadableNumber (literal : String)
  deriving DecidableEq

/-- Why an integer is outside what can be represented. -/
inductive Overflow where
  /-- A negative integer has no unsigned form. -/
  | negativeUnsigned
  /-- A count is larger than any memory. -/
  | hugeCount
  /-- An integer is larger than any number in binary64. -/
  | beyondBinary64
  /-- A text would be larger than any memory. -/
  | hugeText
  /-- An octet string that repeats another would be larger than any memory. -/
  | hugeRepetition
  /-- An octet string of zeros would be larger than any memory. -/
  | hugeOctets
  /-- A time is infinite. -/
  | infiniteTime
  /-- The number of an open file is too large for one. -/
  | handleTooLarge
  /-- The number of an open file is too small for one. -/
  | handleTooSmall
  deriving DecidableEq

/-- Why there is nothing at an index of a list. -/
inductive OutOfRange where
  /-- The list is too short. -/
  | beyondEnd
  /-- No list is so long. -/
  | beyondAnyEnd
  deriving DecidableEq

/-- What the machine refuses. -/
inductive MachineFault where
  /-- No file is open under a number. -/
  | noOpenFile
  /-- A value that it has no use for. -/
  | unusableValue
  deriving DecidableEq

/-- The wording of a refusal. -/
def Refusal.message : Refusal → String
  | .octetOutOfRange => "bytes must be in range(0, 256)"
  | .negativeCount => "negative count"
  | .unknownForm typeName => "Unknown format code 'x' for object of type '" ++ typeName ++ "'"
  | .notAnEntry index count =>
    "dictionary update sequence element #" ++ Text.decimal index ++ " has length " ++
      Text.decimal count ++ "; 2 is required"
  | .unknownKind literal => literal ++ " is not a valid RegistryKind"
  | .tooFewParts count =>
    "not enough values to unpack (expected 2, got " ++ Text.decimal count ++ ")"
  | .tooManyParts => "too many values to unpack (expected 2)"
  | .illegalName => "illegal environment variable name"
  | .embeddedNul => "embedded null byte"
  | .nulInOctets call => call ++ ": embedded null character in path"
  | .negativeHandle => "negative file descriptor"
  | .timeNotANumber => "cannot convert float NaN to integer"
  | .tooManyDigits =>
    "Exceeds the limit (" ++ Text.decimal Text.maxDigits ++ " digits) for integer string " ++
      "conversion; use sys.set_int_max_str_digits() to increase the limit"
  | .unreadableOctets index =>
    "non-hexadecimal number found in fromhex() arg at position " ++ Text.decimal index
  | .unreadableNumber literal => "could not convert string to float: " ++ literal

/-- The wording of an overflow. -/
def Overflow.message : Overflow → String
  | .negativeUnsigned => "can't convert negative int to unsigned"
  | .hugeCount => "cannot fit 'int' into an index-sized integer"
  | .beyondBinary64 => "int too large to convert to float"
  | .hugeText => "repeated string is too long"
  | .hugeRepetition => "repeated bytes are too long"
  | .hugeOctets => "byte string is too large"
  | .infiniteTime => "cannot convert float infinity to integer"
  | .handleTooLarge => "fd is greater than maximum"
  | .handleTooSmall => "fd is less than minimum"

/-- The wording of an index out of range. -/
def OutOfRange.message : OutOfRange → String
  | .beyondEnd => "list assignment index out of range"
  | .beyondAnyEnd => "cannot fit 'int' into an index-sized integer"

/-- The wording of what the machine refuses. -/
def MachineFault.message : MachineFault → String
  | .noOpenFile => "[Errno 9] Bad file descriptor"
  | .unusableValue => "[Errno 22] Invalid argument"

/-- What a call of the machine says of a NUL in a path that it is given. -/
def GivenPath.nulRefusal (call : String) : GivenPath → Refusal
  | .text _ => .embeddedNul
  | .octets _ => .nulInOctets call

end TlsTranscript
