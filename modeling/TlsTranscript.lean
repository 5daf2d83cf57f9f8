import TlsTranscript.Main
import TlsTranscript.Session.Step
import TlsTranscript.Proofs.Number.BigEndian
import TlsTranscript.Proofs.Rendering.Elements
import TlsTranscript.Proofs.Rendering.Hexadecimal
import TlsTranscript.Proofs.Rendering.Lists
import TlsTranscript.Proofs.Rendering.Names
import TlsTranscript.Proofs.Rendering.Printable
import TlsTranscript.Proofs.Rendering.RawText
import TlsTranscript.Proofs.Rendering.ReadableCodes
import TlsTranscript.Proofs.Session.Snapshots
import TlsTranscript.Proofs.Session.Upheld
import TlsTranscript.Proofs.Settings.Precedence
import TlsTranscript.Proofs.Check.Accepted
import TlsTranscript.Proofs.CommandLine.Stored
import TlsTranscript.Proofs.Transcript.Copy
import TlsTranscript.Proofs.Transcript.Verdict
