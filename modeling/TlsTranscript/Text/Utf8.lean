import TlsTranscript.Blocks
import TlsTranscript.Text.Hex

/-!
# UTF-8

Characters as one to four octets and back. The reader refuses overlong forms,
surrogates, values above U+10FFFF, stray continuation octets and characters cut
short, and says where the first fault lies, how many octets it covers and of
which sort it is. A stream that is read in blocks carries an unfinished
character over to the next block, and counts fault positions from the first
octet it still holds.
-/

namespace TlsTranscript.Utf8

/-- The octets of one character. -/
def encodeChar (c : Char) : Bytes :=
  let n := c.toNat
  if n < 0x80 then [UInt8.ofNat n]
  else if n < 0x800 then
    [UInt8.ofNat (0xC0 + n / 0x40), UInt8.ofNat (0x80 + n % 0x40)]
  else if n < 0x10000 then
    [UInt8.ofNat (0xE0 + n / 0x1000), UInt8.ofNat (0x80 + n / 0x40 % 0x40),
      UInt8.ofNat (0x80 + n % 0x40)]
  else
    [UInt8.ofNat (0xF0 + n / 0x40000), UInt8.ofNat (0x80 + n / 0x1000 % 0x40),
      UInt8.ofNat (0x80 + n / 0x40 % 0x40), UInt8.ofNat (0x80 + n % 0x40)]

/-- The octets of a text. -/
def encode (text : String) : Bytes :=
  text.toList.flatMap encodeChar

/-- Why octets are no character. -/
inductive Reason where
  /-- No character starts with this octet. -/
  | invalidStart
  /-- The octet after these cannot continue them. -/
  | invalidContinuation
  /-- The octets end inside a character. -/
  | unexpectedEnd
  deriving DecidableEq

/-- The first place where octets are not UTF-8. -/
structure Fault where
  /-- Index of the first octet of the fault. -/
  start : Nat
  /-- How many octets the fault covers. -/
  count : Nat
  /-- The octet at the start. -/
  octet : UInt8
  /-- What is wrong there. -/
  reason : Reason
  deriving DecidableEq

/-- An octet that continues a character. -/
def isTail (octet : UInt8) : Bool :=
  0x80 ≤ octet && octet ≤ 0xBF

/-- Which second octets may follow the first of a long character: the ranges
after E0, ED, F0 and F4 are narrower than the rest. -/
def isSecond (first second : UInt8) : Bool :=
  (if first = 0xE0 then 0xA0 else if first = 0xF0 then 0x90 else 0x80) ≤ second &&
    second ≤ (if first = 0xED then 0x9F else if first = 0xF4 then 0x8F else 0xBF)

/-- The character of two octets. -/
def pair (a b : UInt8) : Char :=
  Char.ofNat ((a.toNat - 0xC0) * 0x40 + (b.toNat - 0x80))

/-- The character of three octets. -/
def triple (a b c : UInt8) : Char :=
  Char.ofNat ((a.toNat - 0xE0) * 0x1000 + (b.toNat - 0x80) * 0x40 + (c.toNat - 0x80))

/-- The character of four octets. -/
def quadruple (a b c d : UInt8) : Char :=
  Char.ofNat ((a.toNat - 0xF0) * 0x40000 + (b.toNat - 0x80) * 0x1000 +
    (c.toNat - 0x80) * 0x40 + (d.toNat - 0x80))

/-- How octets begin. -/
inductive Front where
  /-- With a whole character of this many octets. -/
  | character (c : Char) (count : Nat)
  /-- With a fault that covers this many octets. -/
  | broken (count : Nat) (reason : Reason)
  /-- With the beginning of a character that the octets do not finish. -/
  | cutShort
  deriving DecidableEq

/-- How octets begin whose first one is given apart. -/
def front (a : UInt8) (rest : Bytes) : Front :=
  if a < 0x80 then .character (Char.ofNat a.toNat) 1
  else if a < 0xC2 then .broken 1 .invalidStart
  else if a < 0xE0 then
    match rest with
    | [] => .cutShort
    | b :: _ => if isTail b then .character (pair a b) 2 else .broken 1 .invalidContinuation
  else if a < 0xF0 then
    match rest with
    | [] => .cutShort
    | b :: rest =>
      if !isSecond a b then .broken 1 .invalidContinuation
      else match rest with
        | [] => .cutShort
        | c :: _ =>
          if isTail c then .character (triple a b c) 3 else .broken 2 .invalidContinuation
  else if a < 0xF5 then
    match rest with
    | [] => .cutShort
    | b :: rest =>
      if !isSecond a b then .broken 1 .invalidContinuation
      else match rest with
        | [] => .cutShort
        | c :: rest =>
          if !isTail c then .broken 2 .invalidContinuation
          else match rest with
            | [] => .cutShort
            | d :: _ =>
              if isTail d then .character (quadruple a b c d) 4
              else .broken 3 .invalidContinuation
  else .broken 1 .invalidStart

/-- The whole characters at the front of octets and the unfinished character
behind them, if any. The first argument is the index of the first octet, the
second says how many octets still belong to the character before. -/
def decodeFront (index : Nat) : Nat → Bytes → Except Fault (List Char × Bytes)
  | _, [] => .ok ([], [])
  | held + 1, _ :: rest => decodeFront (index + 1) held rest
  | 0, a :: rest =>
    match front a rest with
    | .character c count =>
      match decodeFront (index + 1) (count - 1) rest with
      | .ok (text, unfinished) => .ok (c :: text, unfinished)
      | .error fault => .error fault
    | .broken count reason => .error ⟨index, count, a, reason⟩
    | .cutShort => .ok ([], a :: rest)

/-- An unfinished character at the end of octets is a fault that covers all
that is left. -/
def atEnd (index : Nat) (unfinished : Bytes) : Option Fault :=
  match unfinished with
  | [] => none
  | a :: rest => some ⟨index, rest.length + 1, a, .unexpectedEnd⟩

/-- The text of octets, or the first fault in them. -/
def decode (octets : Bytes) : Except Fault String :=
  match decodeFront 0 0 octets with
  | .error fault => .error fault
  | .ok (text, unfinished) =>
    match atEnd (octets.length - unfinished.length) unfinished with
    | some fault => .error fault
    | none => .ok (String.ofList text)

/-- Whether octets are the first two of a surrogate and nothing more. -/
def isHalfSurrogate : Bytes → Bool
  | [first, second] => first = 0xED && isTail second && !isSecond first second
  | _ => false

/-- The whole characters of a block and what is left at its end for the next
one: an unfinished character, or the first two octets of a surrogate, which are
refused only when they are met again. -/
def decodeBlock (octets : Bytes) : Except Fault (List Char × Bytes) :=
  match decodeFront 0 0 octets with
  | .ok front => .ok front
  | .error fault =>
    let rest := octets.drop fault.start
    if isHalfSurrogate rest then
      (decodeFront 0 0 (octets.take fault.start)).map fun (text, _) => (text, rest)
    else .error fault

/-- The text of a stream read in blocks, with the octets that the block before
has left. -/
def decodeBlocks : Bytes → List Bytes → Except Fault (List Char)
  | rest, [] =>
    match decode rest with
    | .error fault => .error fault
    | .ok _ => .ok []
  | rest, block :: blocks =>
    match decodeBlock (rest ++ block) with
    | .error fault => .error fault
    | .ok (text, rest) =>
      match decodeBlocks rest blocks with
      | .error fault => .error fault
      | .ok more => .ok (text ++ more)

/-- The text of a stream that is read in blocks of 8192 octets. -/
def decodeStream (octets : Bytes) : Except Fault String :=
  match decodeBlocks [] (blocksOf 8192 octets) with
  | .error fault => .error fault
  | .ok text => .ok (String.ofList text)

/-- The wording of a reason. -/
def Reason.message : Reason → String
  | .invalidStart => "invalid start byte"
  | .invalidContinuation => "invalid continuation byte"
  | .unexpectedEnd => "unexpected end of data"

/-- The wording of a fault: one octet is shown, several are given by their
first and last index. -/
def Fault.message (fault : Fault) : String :=
  if fault.count = 1 then
    "'utf-8' codec can't decode byte " ++ Text.hex8 fault.octet.toNat ++ " in position " ++
      Text.decimal fault.start ++ ": " ++ fault.reason.message
  else
    "'utf-8' codec can't decode bytes in position " ++ Text.decimal fault.start ++ "-" ++
      Text.decimal (fault.start + fault.count - 1 : Nat) ++ ": " ++ fault.reason.message

end TlsTranscript.Utf8
