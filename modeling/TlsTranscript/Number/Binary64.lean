import TlsTranscript.Text.Digits

/-!
# Numbers in binary64

A finite number of this format is an integer of at most 53 bits times a power of
two, so all questions about it are questions about integers. Decimal text is
rounded to the nearest number, a tie to the even neighbour. The written form of
a number has the fewest digits that read back as the same number.
-/

namespace TlsTranscript

/-- A number in binary64. -/
inductive Binary64 where
  /-- Not a number. Values of this sort are told apart by a mark. -/
  | nan (mark : Nat)
  /-- Positive or negative infinity. -/
  | infinite (negative : Bool)
  /-- A mantissa times two to the power of an exponent. Zero has a sign. -/
  | finite (negative : Bool) (mantissa : Nat) (exponent : Int)
  deriving DecidableEq

namespace Binary64

/-- The integer nearest to a quotient; a tie goes to the even neighbour. -/
def nearest (num den : Nat) : Nat :=
  let low := num / den
  let twice := 2 * (num % den)
  if twice < den ∨ (twice = den ∧ low % 2 = 0) then low else low + 1

/-- A quotient divided by a power of two. -/
def scale (num den : Nat) (exponent : Int) : Nat × Nat :=
  if exponent < 0 then (num <<< (-exponent).toNat, den) else (num, den <<< exponent.toNat)

/-- The exponent that gives a positive quotient a mantissa of 53 bits, or the
least exponent of the format. -/
def exponentFor (num den : Nat) : Int :=
  let guess : Int := (num.log2 : Int) - (den.log2 : Int) - 53
  let (n, d) := scale num den guess
  max (if n / d < 1 <<< 53 then guess else guess + 1) (-1074)

/-- The number nearest to a quotient with a sign. -/
def ofQuotient (negative : Bool) (num den : Nat) : Binary64 :=
  if num = 0 then .finite negative 0 0
  else
    let exponent := exponentFor num den
    let (n, d) := scale num den exponent
    let rounded := nearest n d
    let (mantissa, exponent) :=
      if rounded = 1 <<< 53 then (1 <<< 52, exponent + 1) else (rounded, exponent)
    if exponent > 971 then .infinite negative else .finite negative mantissa exponent

/-- The number nearest to an integer times a power of ten. Powers far outside
the format are not computed. -/
def ofDecimal (negative : Bool) (digits : Nat) (power : Int) : Binary64 :=
  let size : Int := (Text.Digits.ofNat 10 digits).length + power
  if digits = 0 then .finite negative 0 0
  else if size > 400 then .infinite negative
  else if size < -400 then .finite negative 0 0
  else if power < 0 then ofQuotient negative digits (Nat.pow 10 (-power).toNat)
  else ofQuotient negative (digits * Nat.pow 10 power.toNat) 1

/-- The number nearest to an integer, if one is near it. -/
def ofInt? (value : Int) : Option Binary64 :=
  match ofQuotient (value < 0) value.natAbs 1 with
  | .finite negative mantissa exponent => some (.finite negative mantissa exponent)
  | _ => none

/-- The number nearest to the product of two numbers. A product that is not a
number, such as that of zero and infinity, gets the given mark. -/
def times (mark : Nat) : Binary64 → Binary64 → Binary64
  | .finite a m e, .finite b n f =>
    let (num, den) := scale (m * n) 1 (-(e + f))
    ofQuotient (a != b) num den
  | .infinite a, .infinite b => .infinite (a != b)
  | .infinite a, .finite b n _ => if n = 0 then .nan mark else .infinite (a != b)
  | .finite a m _, .infinite b => if m = 0 then .nan mark else .infinite (a != b)
  | _, _ => .nan mark

/-- The whole part of a finite number, toward zero. -/
def whole (negative : Bool) (mantissa : Nat) (exponent : Int) : Int :=
  let size := if exponent < 0 then mantissa >>> (-exponent).toNat
    else mantissa <<< exponent.toNat
  if negative then -Int.ofNat size else Int.ofNat size

/-- Whether a finite number is an integer. -/
def isWhole (mantissa : Nat) (exponent : Int) : Bool :=
  exponent ≥ 0 || mantissa % (1 <<< (-exponent).toNat) == 0

/-- The integer that a number equals, if it equals one. -/
def toInt? : Binary64 → Option Int
  | .finite negative mantissa exponent =>
    if isWhole mantissa exponent then some (whole negative mantissa exponent) else none
  | _ => none

/-- Equality of numbers: the two zeros are equal, and a value that is not a
number equals nothing. -/
def same : Binary64 → Binary64 → Bool
  | .nan _, _ => false
  | _, .nan _ => false
  | .infinite a, .infinite b => a == b
  | .finite a m e, .finite b n f => (m == 0 && n == 0) || (a == b && m == n && e == f)
  | _, _ => false

/-- How often a quotient below one can be multiplied by ten and stay below
one tenth, counted up to a limit. -/
def leadingZeros (num den : Nat) : Nat → Nat
  | 0 => 0
  | limit + 1 => if num * 10 < den then leadingZeros (num * 10) den limit + 1 else 0

/-- Where the decimal point stands before the digits of a positive quotient. -/
def pointFor (num den : Nat) : Int :=
  if num < den then -(leadingZeros num den 400 : Int)
  else (Text.Digits.ofNat 10 (num / den)).length

/-- A quotient in units of a power of ten. -/
def inUnits (num den : Nat) (power : Int) : Nat × Nat :=
  if power < 0 then (num * Nat.pow 10 (-power).toNat, den)
  else (num, den * Nat.pow 10 power.toNat)

/-- The digits and point of the shortest decimal that reads back as a positive
number, among decimals of `count` digits or more, up to a number of attempts.
The two neighbours of the number on the grid of that many digits are tried, and
the nearer one is taken if both read back, in a tie the even one. -/
def shortestFrom (mantissa : Nat) (exponent : Int) (point : Int) : Nat → Nat → Nat × Int
  | 0, count => (mantissa, point - count)
  | attempts + 1, count =>
    let gap := if mantissa = 1 <<< 52 ∧ exponent > -1074 then 1 else 2
    let units := fun quarters : Nat =>
      let (n, d) := if exponent - 2 < 0 then (quarters, 1 <<< (2 - exponent).toNat)
        else (quarters <<< (exponent - 2).toNat, 1)
      inUnits n d (point - count)
    let (n, d) := units (4 * mantissa)
    let (lowest, _) := units (4 * mantissa - gap)
    let (highest, _) := units (4 * mantissa + 2)
    let readsBack := fun candidate : Nat =>
      if mantissa % 2 = 0 then lowest ≤ candidate * d ∧ candidate * d ≤ highest
      else lowest < candidate * d ∧ candidate * d < highest
    let below := n / d
    if readsBack below then
      if readsBack (below + 1) then (nearest n d, point - count) else (below, point - count)
    else if readsBack (below + 1) then (below + 1, point - count)
    else shortestFrom mantissa exponent point attempts (count + 1)

/-- The digits and the place of the point of the shortest decimal for a
positive number. -/
def shortest (mantissa : Nat) (exponent : Int) : List Char × Int :=
  let (num, den) := if exponent < 0 then (mantissa, 1 <<< (-exponent).toNat)
    else (mantissa <<< exponent.toNat, 1)
  let (digits, power) := shortestFrom mantissa exponent (pointFor num den) 17 1
  let written := Text.Digits.ofNat 10 digits
  (Text.trimZeros written, written.length + power)

/-- Digits with a point: positional where the point stands near them, and with
an exponent of two digits or more elsewhere. -/
def layout (digits : List Char) (point : Int) : List Char :=
  if -4 < point ∧ point ≤ 16 then
    if point ≤ 0 then '0' :: '.' :: List.replicate (-point).toNat '0' ++ digits
    else if digits.length ≤ point.toNat then
      digits ++ List.replicate (point.toNat - digits.length) '0' ++ ['.', '0']
    else digits.take point.toNat ++ '.' :: digits.drop point.toNat
  else
    let power := point - 1
    let rest := digits.drop 1
    digits.take 1 ++ (if rest.isEmpty then [] else '.' :: rest) ++
      'e' :: (if power < 0 then '-' else '+') ::
        Text.Digits.fill 2 (Text.Digits.ofNat 10 power.natAbs)

/-- The shortest text that reads back as the number. -/
def text : Binary64 → String
  | .nan _ => "nan"
  | .infinite negative => if negative then "-inf" else "inf"
  | .finite negative mantissa exponent =>
    let unsigned := if mantissa = 0 then ['0', '.', '0']
      else
        let (digits, point) := shortest mantissa exponent
        layout digits point
    String.ofList (if negative then '-' :: unsigned else unsigned)

end Binary64

end TlsTranscript
