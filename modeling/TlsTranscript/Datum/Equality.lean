import TlsTranscript.Datum.Basic

/-!
# Equal data

Numbers are equal by value whatever their type, truth values among them. Lists
are equal only to lists and tuples only to tuples. The order of the entries of a
table does not count. Registries are equal only to themselves. A value that is
not a number equals nothing, but as a part of something it matches itself.
-/

namespace TlsTranscript

namespace Datum

/-- Equality of two numbers; what is no number equals none. -/
def sameNumber : Datum → Datum → Bool
  | .float a, .float b => a.same b
  | a, b =>
    match a.integral?, b.integral? with
    | some m, some n => m == n
    | _, _ => false

/-- Whether two data are one and the same value that is not a number. -/
def oneNan : Datum → Datum → Bool
  | .float (.nan a), .float (.nan b) => a == b
  | _, _ => false

mutual

/-- Equality of data. -/
def same : Datum → Datum → Bool
  | .absent, .absent => true
  | .text a, .text b => a == b
  | .octets a, .octets b => a == b
  | .list a, .list b => sameItems a b
  | .tuple a, .tuple b => sameItems a b
  | .table a, .table b => a.length == b.length && sameEntries a b
  | .model a, .model b => a == b
  | .registries a _, .registries b _ => a == b
  | .flag a, other => sameNumber (.flag a) other
  | .integer a, other => sameNumber (.integer a) other
  | .float a, other => sameNumber (.float a) other
  | _, _ => false

/-- Equality of lists, item by item. -/
def sameItems : List Datum → List Datum → Bool
  | [], [] => true
  | a :: as, b :: bs => (oneNan a b || same a b) && sameItems as bs
  | _, _ => false

/-- Whether every entry of the first table has an equal one in the second. -/
def sameEntries : List (Datum × Datum) → List (Datum × Datum) → Bool
  | [], _ => true
  | (key, value) :: rest, entries =>
    (entries.any fun other =>
      (oneNan key other.1 || same key other.1) && (oneNan value other.2 || same value other.2)) &&
      sameEntries rest entries

end

/-- Whether a datum stands for another one inside a list or as a key. -/
def matchesPart (a b : Datum) : Bool := oneNan a b || same a b

end Datum

end TlsTranscript
