/-!
# Positional digits

Whole numbers written in a base from two to sixteen, most significant digit
first, with lower-case letters for the digits above nine. The decimal text of
an integer and the sign and zero fill of a padded hexadecimal number are built
from the same digit list. Reading digits back is `Digits.value?`.
-/

namespace TlsTranscript.Text

/-- The digit for a value below sixteen, in lower case. -/
def digit (value : Nat) : Char :=
  if value < 10 then Char.ofNat (48 + value) else Char.ofNat (87 + value)

/-- The value of a decimal or lower-case hexadecimal digit. -/
def digitValue? (c : Char) : Option Nat :=
  if 48 ≤ c.toNat ∧ c.toNat ≤ 57 then some (c.toNat - 48)
  else if 97 ≤ c.toNat ∧ c.toNat ≤ 102 then some (c.toNat - 87)
  else none

namespace Digits

/-- The digits of `n`, at most as many as the first argument allows. -/
def upTo (base : Nat) : Nat → Nat → List Char
  | 0, _ => []
  | count + 1, n =>
    if n < base then [digit n] else upTo base count (n / base) ++ [digit (n % base)]

/-- The digits of `n` without leading zeros; zero is one digit. A number has
at most as many digits as its own size and one more, so none is cut off. -/
def ofNat (base n : Nat) : List Char :=
  upTo base (n + 1) n

/-- The number that a digit list adds to a number read so far. -/
def valueFrom? (base : Nat) : Nat → List Char → Option Nat
  | read, [] => some read
  | read, c :: rest =>
    match digitValue? c with
    | some d => if d < base then valueFrom? base (read * base + d) rest else none
    | none => none

/-- The number that a digit list writes; an empty list writes none. -/
def value? (base : Nat) : List Char → Option Nat
  | [] => none
  | c :: rest => valueFrom? base 0 (c :: rest)

/-- Zeros in front of a digit list up to a given width. -/
def fill (width : Nat) (digits : List Char) : List Char :=
  List.replicate (width - digits.length) '0' ++ digits

end Digits

/-- A digit list without the zeros at its end; one digit is always kept. -/
def trimZeros : List Char → List Char
  | [] => []
  | c :: rest => c :: (rest.reverse.dropWhile (· == '0')).reverse

/-- The greatest number of digits of an integer that is read or shown in
decimal. -/
def maxDigits : Nat := 4300

/-- Whether an integer has few enough digits to be shown in decimal; the sign
does not count. -/
def isWritable (value : Int) : Bool := value.natAbs < Nat.pow 10 maxDigits

/-- An integer in decimal, with a minus sign if it is negative. -/
def decimal : Int → String
  | .ofNat n => String.ofList (Digits.ofNat 10 n)
  | .negSucc n => String.ofList ('-' :: Digits.ofNat 10 (n + 1))

end TlsTranscript.Text
