/-!
# Settings

What a run can be told from outside: how much it logs and where its transcripts
go. A setting that is not given has a default.
-/

namespace TlsTranscript

/-- The settings of a run. -/
structure Settings where
  /-- Name of the lowest level that is logged. -/
  logLevel : String := "WARNING"
  /-- Directory of the transcripts. -/
  transcriptDir : String := "transcripts"
  deriving DecidableEq

end TlsTranscript
