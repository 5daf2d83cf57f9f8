import TlsTranscript.Text.Hex

/-!
# Octets written in base sixteen

An octet is written with two digits in base sixteen, in either case of letters,
and white space of ASCII may stand between octets. Where a text does not write
octets, the index of the first character that is out of place is told.
-/

namespace TlsTranscript.HexOctets

/-- White space of ASCII. -/
def isGap (c : Char) : Bool := c = ' ' || (9 ≤ c.toNat && c.toNat ≤ 13)

/-- The value of a digit in base sixteen. -/
def value? (c : Char) : Option Nat := Text.digitValue? c.toLower

/-- The octets that characters write whose first one has an index, or the index of
the first character that is out of place. -/
def readFrom (index : Nat) : List Char → Except Nat Bytes
  | [] => .ok []
  | c :: rest =>
    if isGap c then readFrom (index + 1) rest
    else match value? c, rest with
      | none, _ => .error index
      | some _, [] => .error (index + 1)
      | some high, d :: rest =>
        match value? d with
        | none => .error (index + 1)
        | some low => do
          let octets ← readFrom (index + 2) rest
          return UInt8.ofNat (16 * high + low) :: octets

/-- The octets that a text writes. A character beyond ASCII is found before
anything else. -/
def read (text : String) : Except Nat Bytes :=
  match text.toList.findIdx? fun c => c.toNat ≥ 0x80 with
  | some index => .error index
  | none => readFrom 0 text.toList

end TlsTranscript.HexOctets
