import TlsTranscript.Proofs.Check.Union
import TlsTranscript.Proofs.Session.Known

/-!
# Instances stay as they are

What a session answers about an instance, and that this does not change however the
session goes on.
-/

namespace TlsTranscript

open Changing

namespace Session

open Deed

/-- Attempts to change the alert and to put notes beside it. -/
def attempts : List Request :=
  [⟨.setField "notice" "code" (.constant (.integer 300)), false⟩,
    ⟨.setField "notice" "_seen" (.constant (.flag true)), false⟩,
    ⟨.removeField "notice" "severity", false⟩,
    ⟨.bind "row" (.list [.variable "notice"]), true⟩,
    ⟨.assign "row" (.integer 0) .absent, true⟩]

end Session

end TlsTranscript
