import TlsTranscript.Session.Store

/-!
# Products

What two values make when they are multiplied. Texts, octet strings and lists are
repeated, which makes a new value, and numbers are multiplied, in binary64 if one
of them is in that format. Other values are refused, and so are results that no
memory holds.
-/

namespace TlsTranscript

/-- A list a number of times, a negative number counting as zero. -/
def repeatList {α : Type} (items : List α) (times : Int) : List α :=
  if items.isEmpty then [] else (List.replicate times.toNat items).flatten

/-- A list a number of times, if the memory holds so many items. -/
def repeatFitting {α : Type} (huge : Failure) (items : List α) (times : Int) :
    Except Failure (List α) :=
  let size := items.length * times.toNat
  if Datum.isBeyondAnyEnd times then .error (.overflow .hugeCount)
  else if size ≥ Datum.hugeCount then .error huge
  else if size > Datum.mostItems then .error .outOfMemory
  else .ok (repeatList items times)

namespace Datum

/-- How often something is repeated. -/
def countOperand (datum : Datum) : Except Failure Int :=
  match datum.toInt? with
  | some count => .ok count
  | none => .error (.misfit (.notACount datum.typeName))

/-- A number in binary64 multiplied by an integer. A result that is not a number
gets the given mark. -/
def multiplied (mark : Nat) (value : Binary64) (factor : Int) : Except Failure Datum :=
  match Binary64.ofInt? factor with
  | some factor => .ok (.float (value.times mark factor))
  | none => .error (.overflow .beyondBinary64)

/-- The product of two numbers, the second one an integer. -/
def product (mark : Nat) (first second : Datum) : Except Failure Datum :=
  match first, first.toInt?, second.toInt? with
  | .float value, _, some factor => multiplied mark value factor
  | _, some value, some factor => .ok (.integer (value * factor))
  | _, _, _ => .error (.misfit (.notMultipliable first.typeName second.typeName))

end Datum

namespace Held

/-- Whether a value can be repeated. -/
def isSequence : Held → Bool
  | .list _ => true
  | .tuple _ => true
  | .fixed (.text _) => true
  | .fixed (.octets _) => true
  | _ => false

/-- A value that can be repeated a number of times; any other value once. -/
def repeated (times : Int) : Held → Except Failure Held
  | .list items => (repeatFitting .outOfMemory items times).map .list
  | .tuple items => (repeatFitting .outOfMemory items times).map .tuple
  | .fixed (.text value) =>
    (repeatFitting (.overflow .hugeText) value.toList times).map fun content =>
      .fixed (.text (String.ofList content))
  | .fixed (.octets value) =>
    (repeatFitting (.overflow .hugeRepetition) value times).map fun content =>
      .fixed (.octets content)
  | other => .ok other

/-- A datum as a value. -/
def ofDatum : Datum → Held
  | .list items => .list (items.map .fixed)
  | other => .fixed other

end Held

/-- The product of a value and a datum. -/
def Store.product (store : Store) (mark : Nat) (held : Held) (times : Datum) :
    Except Failure Held := do
  let content := store.content held
  let second := Held.ofDatum times
  if content.isSequence then content.repeated (← times.countOperand)
  else if second.isSequence then second.repeated (← (store.read content).countOperand)
  else return .fixed (← (store.read content).product mark times)

end TlsTranscript
