/-!
# Blocks of a list

A list cut into consecutive blocks of one size, the last one shorter.
-/

namespace TlsTranscript

/-- At most as many blocks of `size` items as the second argument allows. -/
def blocksUpTo {α : Type} (size : Nat) : Nat → List α → List (List α)
  | 0, _ => []
  | count + 1, items =>
    if items.isEmpty then [] else items.take size :: blocksUpTo size count (items.drop size)

/-- A list cut into blocks of `size` items. Blocks of one item or more are
never more than the items. -/
def blocksOf {α : Type} (size : Nat) (items : List α) : List (List α) :=
  blocksUpTo size items.length items

end TlsTranscript
