import TlsTranscript.Session.Term
import TlsTranscript.World

/-!
# Sessions and deeds

A session is a world together with the cells and names that have been bound in
it. A deed changes a session and may fail; what it changed before the failure
stays.
-/

namespace TlsTranscript

/-- A world with cells and names. -/
structure Session where
  /-- What operations read and change. -/
  world : World := {}
  /-- Names and cells. -/
  store : Store := {}

/-- A change of a session that may fail. -/
abbrev Deed := ExceptT Failure (StateM Session)

namespace Deed

variable {α : Type}

/-- An action on the world of a session. -/
def onWorld (action : Action α) : Deed α :=
  ExceptT.mk fun session =>
    let (result, world) := action.runIn session.world
    (result, { session with world := world })

/-- A building on the store of a session. -/
def onStore (building : Building α) : Deed α :=
  ExceptT.mk fun session =>
    let (result, store) := StateT.run (ExceptT.run building) session.store
    (result, { session with store := store })

/-- A result that is known without a session. -/
def ofResult (result : Except Failure α) : Deed α := ExceptT.mk (pure result)

/-- The datum of a term. -/
def datumOf (term : Term) : Deed Datum := onStore term.buildDatum

/-- The data of terms. -/
def dataOf (terms : List Term) : Deed (List Datum) :=
  terms.mapM datumOf

/-- Named data of terms. -/
def namedDataOf (terms : List (String × Term)) : Deed (Keyed String Datum) :=
  terms.mapM fun entry => do return (entry.1, ← datumOf entry.2)

/-- What a name is bound to. -/
def heldUnder (name : String) : Deed Held :=
  onStore (Term.build (.variable name))

/-- The datum that a name is bound to. -/
def datumUnder (name : String) : Deed Datum := datumOf (.variable name)

end Deed

end TlsTranscript
