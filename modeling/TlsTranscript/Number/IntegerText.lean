import TlsTranscript.Text.Blank
import TlsTranscript.Text.Digits

/-!
# Integers written as text

A plain integer is at most 4300 digits without a leading zero, perhaps behind a
minus sign. Other text is first reduced to a plain integer: white space around it
goes, then a sign in front, then zeros in front together with the underscores
among them, then a fraction that is all zeros, and at last the single underscores
between digits. Zeros in front may hide a minus sign of their own, which then
counts.
-/

namespace TlsTranscript

/-- What a text says about an integer. -/
inductive IntegerText where
  /-- It writes none. -/
  | malformed
  /-- It writes one with too many digits. -/
  | tooLong
  /-- It writes this one. -/
  | value (value : Int)
  deriving DecidableEq

namespace IntegerText

/-- A decimal digit of ASCII. -/
def isDigit (c : Char) : Bool := 48 ≤ c.toNat && c.toNat ≤ 57

/-- The natural number that digits without a leading zero write. -/
def plainNat? : List Char → Option Nat
  | ['0'] => some 0
  | '0' :: _ => none
  | digits => Text.Digits.value? 10 digits

/-- The plain integer that a text is, its length left aside. -/
def plain? : List Char → Option Int
  | '-' :: digits => (plainNat? digits).map fun n => -Int.ofNat n
  | digits => (plainNat? digits).map Int.ofNat

/-- Whether a text starts with more digits than a plain integer may have. -/
def startsTooLong (text : List Char) : Bool :=
  let digits := match text with
    | '-' :: rest => rest
    | rest => rest
  digits.head? != some '0' && (digits.takeWhile isDigit).length > Text.maxDigits

/-- What follows the zeros in front of a text and the underscores among them. A
zero stays where nothing follows but a point or the end. -/
def afterZeros (last : Char) : List Char → Option (List Char)
  | [] => some [last]
  | c :: rest =>
    if c = '0' || c = '_' then afterZeros c rest
    else if c = '.' then some (last :: c :: rest)
    else if isDigit c || c = '-' then some (c :: rest)
    else none

/-- A text without zeros in front. A text that starts otherwise starts with a
digit. -/
def skipZeros : List Char → Option (List Char)
  | [] => none
  | c :: rest => if c = '0' then afterZeros c rest else if isDigit c then some (c :: rest) else none

/-- A text without a fraction that is all zeros. -/
def skipFraction (text : List Char) : List Char :=
  match text.dropWhile (· != '.') with
  | _ :: zero :: zeros =>
    if (zero :: zeros).all (· == '0') then text.takeWhile (· != '.') else text
  | _ => text

/-- Whether two underscores stand side by side. -/
def hasDoubled : List Char → Bool
  | '_' :: '_' :: _ => true
  | _ :: rest => hasDoubled rest
  | [] => false

/-- A text without its underscores, if each of them stands alone inside it. -/
def ungroup (text : List Char) : List Char :=
  if text.head? == some '_' || text.getLast? == some '_' || hasDoubled text then text
  else text.filter (· != '_')

/-- A text without its sign, and whether the sign is a minus. Only one sign may
stand in front. -/
def splitSign : List Char → Option (Bool × List Char)
  | '+' :: '-' :: _ => none
  | '-' :: '-' :: _ => none
  | '-' :: rest => some (true, rest)
  | '+' :: rest => some (false, rest)
  | text => some (false, text)

/-- A text reduced to a plain integer, as far as that goes. -/
def reduce (text : List Char) : Option (List Char) := do
  let (negative, unsigned) ← splitSign (Text.trim Text.isWhiteSpace text)
  let significant ← skipZeros unsigned
  let digits := ungroup (skipFraction significant)
  return if negative then '-' :: digits else digits

/-- Reads an integer. A text is too long only if it is so as it stands. -/
def read (text : String) : IntegerText :=
  if startsTooLong text.toList then .tooLong
  else match plain? text.toList with
    | some n => .value n
    | none =>
      match reduce text.toList with
      | none => .malformed
      | some reduced =>
        if startsTooLong reduced then .malformed
        else match plain? reduced with
          | some n => .value n
          | none => .malformed

end IntegerText

end TlsTranscript
