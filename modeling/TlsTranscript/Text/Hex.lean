import TlsTranscript.Text.Digits

/-!
# Hexadecimal text

Numbers with the mark `0x`, padded to the width of one or two octets, and the
bracketed listing of an octet string. A sign counts against the width, and a
number wider than its field keeps all its digits.
-/

namespace TlsTranscript

/-- An octet string. -/
abbrev Bytes := List UInt8

namespace Text

/-- Sign and digits of an integer in base sixteen, filled with zeros until
sign and digits together have the given width. -/
def hexPadded (width : Nat) : Int → List Char
  | .ofNat n => Digits.fill width (Digits.ofNat 16 n)
  | .negSucc n => '-' :: Digits.fill (width - 1) (Digits.ofNat 16 (n + 1))

/-- An integer as the hexadecimal form of one octet. -/
def hex8 (value : Int) : String :=
  String.ofList ('0' :: 'x' :: hexPadded 2 value)

/-- An integer as the hexadecimal form of two octets. -/
def hex16 (value : Int) : String :=
  String.ofList ('0' :: 'x' :: hexPadded 4 value)

/-- An integer in base sixteen without a fill, its sign behind the mark. -/
def hexUnpadded (value : Int) : String :=
  String.ofList ('0' :: 'x' :: hexPadded 0 value)

/-- An integer in base sixteen without a fill, its sign before the mark. -/
def hexSigned : Int → String
  | .ofNat n => String.ofList ('0' :: 'x' :: Digits.ofNat 16 n)
  | .negSucc n => String.ofList ('-' :: '0' :: 'x' :: Digits.ofNat 16 (n + 1))

/-- Integers in base sixteen, two characters wide or more, with single spaces
between them and brackets around all. -/
def hexListing (values : List Int) : String :=
  "[" ++ " ".intercalate (values.map fun value => String.ofList (hexPadded 2 value)) ++ "]"

end Text

/-- The listing of an octet string: two digits an octet. -/
def Bytes.listing (data : Bytes) : String :=
  Text.hexListing (data.map fun octet => Int.ofNat octet.toNat)

/-- The listing of an octet string that may be missing. A missing one is the
word `None`, an empty one is the empty pair of brackets. -/
def Bytes.listingOrNone : Option Bytes → String
  | none => "None"
  | some data => Bytes.listing data

end TlsTranscript
