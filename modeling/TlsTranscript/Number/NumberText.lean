import TlsTranscript.Number.Binary64
import TlsTranscript.Text.Blank
import TlsTranscript.Text.DecimalDigit

/-!
# Numbers written as text

A number is written with digits, perhaps with a point among them and perhaps with
an exponent behind them, or it is a word for infinity or for what is not a number.
A sign may stand in front, white space around it and single underscores between
digits. Letters count in either case, and digits of all scripts count.
-/

namespace TlsTranscript

namespace NumberText

/-- A decimal digit of ASCII. -/
def isPlainDigit (c : Char) : Bool := 48 ≤ c.toNat && c.toNat ≤ 57

/-- A text without its underscores, if each of them stands between two digits. A
flag says whether a digit stands in front. -/
def ungroup : Bool → List Char → Option (List Char)
  | _, [] => some []
  | _, ['_'] => none
  | afterDigit, '_' :: c :: rest =>
    if afterDigit && isPlainDigit c then (ungroup true rest).map (c :: ·) else none
  | _, c :: rest => (ungroup (isPlainDigit c) rest).map (c :: ·)

/-- The integer of a decimal exponent, which may have a sign. -/
def exponent? : List Char → Option Int
  | '-' :: digits => (Text.Digits.value? 10 digits).map fun n => -Int.ofNat n
  | '+' :: digits => (Text.Digits.value? 10 digits).map Int.ofNat
  | digits => (Text.Digits.value? 10 digits).map Int.ofNat

/-- The number that digits write, perhaps with a point and an exponent. -/
def decimal? (negative : Bool) (text : List Char) : Option Binary64 := do
  let number := text.takeWhile (· != 'e')
  let exponent := text.dropWhile (· != 'e')
  let whole := number.takeWhile (· != '.')
  let fraction := (number.dropWhile (· != '.')).drop 1
  let digits ← Text.Digits.value? 10 (whole ++ fraction)
  let power ← if exponent.isEmpty then some 0 else exponent? (exponent.drop 1)
  return .ofDecimal negative digits (power - fraction.length)

/-- The number that a text without a sign writes. -/
def unsigned? (negative : Bool) (text : List Char) : Option Binary64 :=
  if text = ['i', 'n', 'f'] ∨ text = ['i', 'n', 'f', 'i', 'n', 'i', 't', 'y'] then
    some (.infinite negative)
  else if text = ['n', 'a', 'n'] then some (.nan 0)
  else decimal? negative text

/-- The number that a text writes, perhaps with a sign. -/
def signed? : List Char → Option Binary64
  | '-' :: rest => unsigned? true rest
  | '+' :: rest => unsigned? false rest
  | rest => unsigned? false rest

/-- Reads a number. -/
def read (text : String) : Option Binary64 := do
  let plain := text.toList.map fun c => (Text.inAscii c).toLower
  signed? (← ungroup false (Text.trim Text.isWhiteSpace plain))

end NumberText

end TlsTranscript
