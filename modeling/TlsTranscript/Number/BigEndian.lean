import TlsTranscript.Text.Hex

/-!
# Octets of natural numbers

A natural number in base 256, most significant octet first and without leading
zeros; zero is one octet.
-/

namespace TlsTranscript.BigEndian

/-- The octets of a number, at most as many as the first argument allows. -/
def upTo : Nat → Nat → Bytes
  | 0, _ => []
  | count + 1, n =>
    if n < 256 then [UInt8.ofNat n] else upTo count (n / 256) ++ [UInt8.ofNat (n % 256)]

/-- The octets of a number. It has at most as many as its own size and one
more. -/
def ofNat (n : Nat) : Bytes := upTo (n + 1) n

/-- The number that octets write. -/
def value (octets : Bytes) : Nat :=
  octets.foldl (fun read octet => read * 256 + octet.toNat) 0

end TlsTranscript.BigEndian
