import TlsTranscript.Check.Checked
import TlsTranscript.Model.Fields
import TlsTranscript.Number.IntegerText
import TlsTranscript.Text.Utf8

/-!
# Checks of single fields

What a field accepts and what it makes of it. Integers may be given as truth
values, as numbers without a fraction and as text; octet strings also as text,
which is then encoded; lists and pairs also as tuples and as models, which have
their fields with the names as items. A field may be required, or have a default
that stands in if it is left out.

Fields are declared in the source and checked by a validation library. What is
assumed of it are its documented conversions in lax mode for each type of field, its
codes and wordings, and that all problems are gathered in the order of the fields.
-/

namespace TlsTranscript

namespace Check

variable {α β : Type}

/-- An integer written as text. -/
def integerText (text : String) : Checked Int :=
  match IntegerText.read text with
  | .value n => .valid n
  | .tooLong => .fail .integerTooLong
  | .malformed => .fail .unreadableInteger

/-- A number in binary64 that is an integer of less than 64 bits. -/
def wholeNumber : Binary64 → Checked Int
  | .nan _ => .fail .notFinite
  | .infinite _ => .fail .notFinite
  | .finite negative mantissa exponent =>
    if Binary64.isWhole mantissa exponent then
      let n := Binary64.whole negative mantissa exponent
      if n.natAbs < 1 <<< 63 then .valid n else .fail .integerTooLong
    else .fail .fraction

/-- An integer. -/
def integer : Datum → Checked Int
  | .flag value => .valid (if value then 1 else 0)
  | .integer value => .valid value
  | .float value => wholeNumber value
  | .text value => integerText value
  | .octets value =>
    match Utf8.decode value with
    | .ok text => integerText text
    | .error _ => .fail .unreadableInteger
  | _ => .fail .notInteger

/-- An integer that is not negative. -/
def natural (datum : Datum) : Checked Nat :=
  (integer datum).andThen fun
    | .ofNat n => .valid n
    | .negSucc _ => .fail .negative

/-- A natural number up to a limit. -/
def naturalUpTo (limit : Nat) (datum : Datum) : Checked Nat :=
  (natural datum).andThen fun n => if n ≤ limit then .valid n else .fail (.aboveLimit limit)

/-- A number of one octet. -/
def octet (datum : Datum) : Checked UInt8 := (naturalUpTo 0xFF datum).map UInt8.ofNat

/-- A number of two octets. -/
def twoOctets (datum : Datum) : Checked UInt16 :=
  (naturalUpTo 0xFFFF datum).map UInt16.ofNat

/-- A number of four octets. -/
def fourOctets (datum : Datum) : Checked UInt32 :=
  (naturalUpTo 0xFFFFFFFF datum).map UInt32.ofNat

/-- An octet string. -/
def octets : Datum → Checked Bytes
  | .octets value => .valid value
  | .text value => .valid (Utf8.encode value)
  | _ => .fail .notOctets

/-- A text. -/
def text : Datum → Checked String
  | .text value => .valid value
  | .octets value =>
    match Utf8.decode value with
    | .ok decoded => .valid decoded
    | .error _ => .fail .undecodableText
  | _ => .fail .notText

/-- Something that may be missing. -/
def optional (check : Datum → Checked α) : Datum → Checked (Option α)
  | .absent => .valid none
  | datum => (check datum).map some

/-- The items of a list from a given index on. -/
def itemsFrom (check : Datum → Checked α) : Nat → List Datum → Checked (List α)
  | _, [] => .valid []
  | index, datum :: rest =>
    List.cons <$> (check datum).within (.item index) <*> itemsFrom check (index + 1) rest

/-- A list. -/
def list (check : Datum → Checked α) : Datum → Checked (List α)
  | .list items => itemsFrom check 0 items
  | .tuple items => itemsFrom check 0 items
  | .model value => itemsFrom check 0 value.pairs
  | _ => .fail .notList

/-- The two items of a pair. What is said of more items is given apart. -/
def pairItems (first : Datum → Checked α) (second : Datum → Checked β) (surplus : Defect) :
    List Datum → Checked (α × β)
  | [] => Prod.mk <$> Checked.within (.item 0) (.fail .missing) <*>
      Checked.within (.item 1) (.fail .missing)
  | [a] => Prod.mk <$> (first a).within (.item 0) <*> Checked.within (.item 1) (.fail .missing)
  | [a, b] => Prod.mk <$> (first a).within (.item 0) <*> (second b).within (.item 1)
  | _ => .fail surplus

/-- A pair. The items of a model are not counted. -/
def pair (first : Datum → Checked α) (second : Datum → Checked β) : Datum → Checked (α × β)
  | .list items => pairItems first second (.tooManyItems (some items.length)) items
  | .tuple items => pairItems first second (.tooManyItems (some items.length)) items
  | .model value => pairItems first second (.tooManyItems none) value.pairs
  | _ => .fail .notPair

/-- A field that must be there. -/
def required (entries : Keyed String Datum) (name : String) (check : Datum → Checked α) :
    Checked α :=
  match Keyed.get? name entries with
  | some datum => (check datum).within (.field name)
  | none => .invalid [⟨[.field name], .missing⟩]

/-- A field with a default. -/
def withDefault (entries : Keyed String Datum) (name : String) (default : α)
    (check : Datum → Checked α) : Checked α :=
  match Keyed.get? name entries with
  | some datum => (check datum).within (.field name)
  | none => .valid default

end Check

end TlsTranscript
