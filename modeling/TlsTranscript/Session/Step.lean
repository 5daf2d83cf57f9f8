import TlsTranscript.Session.Change
import TlsTranscript.Session.Operation
import TlsTranscript.Session.Signature

/-!
# Sessions

A session is a world together with the names and cells that its steps have
bound. A step changes the session and has an answer: a result or a failure, and
the log records that were written meanwhile. A failed step keeps what it had
changed, and the next one goes on from there.
-/

namespace TlsTranscript

/-- A call of an operation. -/
structure Call where
  /-- The operation. -/
  operation : Operation
  /-- How it is called. -/
  callable : Interface
  /-- Terms by position. -/
  positional : List Term
  /-- Terms by name. -/
  named : List (String × Term)

/-- Where a run of the command line takes its structures from, as terms. -/
inductive SourceTerm where
  /-- From named parts of key material. -/
  | generated (material : List (String × Term))
  /-- From messages and extensions. -/
  | given (messages extensions : Term)

/-- The steps of a session. -/
inductive Step where
  /-- Calls an operation. -/
  | call (content : Call)
  /-- Binds a name. -/
  | bind (name : String) (value : Term)
  /-- Puts a value into the list or table that a name is bound to. -/
  | assign (name : String) (key value : Datum)
  /-- Tries to change a field of a model or to attach a note. -/
  | setField (name field : String) (value : Term)
  /-- Tries to remove a field of a model or a note. -/
  | removeField (name field : String)
  /-- Reads a property of a model or a note. -/
  | property (name field : String)
  /-- Compares two values. -/
  | equal (first second : Term)
  /-- Sets a variable of the environment. -/
  | setVariable (name value : Datum)
  /-- Removes a variable of the environment. -/
  | removeVariable (name : Datum)
  /-- Reads a variable of the environment. -/
  | readVariable (name : Datum)
  /-- Writes a file over. -/
  | overwrite (path : String) (data : Term)
  /-- Reads a file. -/
  | octets (path : String)
  /-- Makes a directory. -/
  | makeDirectory (path : String)
  /-- Lists all files and directories. -/
  | list
  /-- Sets up logging with given settings or with those that are loaded. -/
  | configureLogging (settings : Option Term)
  /-- Makes a sample handshake. -/
  | sample (material : List (String × Term))
  /-- Runs the command line. -/
  | commandLine (arguments : List String) (source : SourceTerm)

/-- A step with the wish for its log records. -/
structure Request where
  /-- The step. -/
  step : Step
  /-- Whether the log records are wanted. -/
  listening : Bool

/-- The result of a step. -/
inductive Result where
  /-- A datum. -/
  | datum (value : Datum)
  /-- What a run of the command line leaves behind. -/
  | report (content : CommandLine.Report)

/-- The answer of a step. -/
structure Answer where
  /-- A result or a failure. -/
  outcome : Except Failure Result
  /-- The log records that were written, oldest first. -/
  records : List LogRecord

namespace Step

open Deed

/-- The octets under a name, none if there are none. -/
def octetsUnder (name : String) (parts : Keyed String Datum) : Bytes :=
  match Keyed.get? name parts with
  | some (.octets value) => value
  | _ => []

/-- Key material from named parts. -/
def materialOf (parts : Keyed String Datum) : KeyMaterial where
  random := octetsUnder "random" parts
  share := octetsUnder "share" parts
  certificate := octetsUnder "cert" parts
  dhOffset := ((Keyed.get? "dh_y" parts).bind Datum.toInt?).getD 0
  signature := octetsUnder "signature" parts

/-- The kind of model that a datum is. -/
def kindOf : Datum → Option ModelKind
  | .model value => some value.kind
  | _ => none

/-- Calls an operation. All arguments are built before they are matched with the
parameters, and of arguments under one name the last one counts. -/
def runCall (call : Call) : Deed Datum := do
  let positional ← dataOf call.positional
  let named := Keyed.ofEntries (← namedDataOf call.named)
  match call.callable.bind kindOf .absent positional named with
  | .ok arguments => onWorld (call.operation.run arguments)
  | .error cause => throw (.call cause)

/-- Writes a file over. The file is empty while its new content is built, and
stays so if there is none. -/
def runOverwrite (path : String) (content : Term) : Deed Datum := do
  onWorld (Transcript.overwrite (.text path) [])
  let content ← datumOf content
  let content ← ofResult content.contentOperand
  onWorld (Transcript.overwrite (.text path) content)
  return .absent

/-- Makes a directory that is not there yet, and the directories above it. -/
def runMakeDirectory (path : String) : Deed Datum := do
  onWorld (Transcript.makeDirectories false (.text path))
  return .absent

/-- A text for the environment. -/
def environmentText : Datum → Except Failure String
  | .text value => .ok value
  | other => .error (.misfit (.notForEnvironment other.typeName))

/-- Changes the environment. -/
def changeEnvironment (change : Environment → Except Failure Environment) : Deed Datum := do
  let session ← get
  let environment ← ofResult (change session.world.environment)
  set { session with world := { session.world with environment := environment } }
  return .absent

/-- Sets a variable of the environment. -/
def runSetVariable (name value : Datum) : Deed Datum :=
  changeEnvironment fun known => do
    known.set (← environmentText name) (← environmentText value)

/-- Removes a variable of the environment. -/
def runRemoveVariable (name : Datum) : Deed Datum :=
  changeEnvironment fun known => do
    return Keyed.erase (← environmentText name) known

/-- The level at which logging is set up for settings. -/
def levelFor (settings : Datum) : Action Datum := do
  if settings.isSomething then
    Action.ofResult (settings.propertyOperand "log_level")
  else
    let loaded ← Settings.load
    return .text loaded.logLevel

/-- Sets up logging. -/
def runConfigureLogging (settings : Option Term) : Deed Datum := do
  let settings ← datumOf (settings.getD (.constant .absent))
  let level ← onWorld (levelFor settings)
  return .list [.list [level, .text Settings.logFormat]]

/-- The source of a run. -/
def sourceOf : SourceTerm → Deed CommandLine.Source
  | .generated material => do return .generated (materialOf (← namedDataOf material))
  | .given messages extensions => do
    let messages ← datumOf messages
    return .given messages (← datumOf extensions)

/-- The messages and extensions of a sample handshake. -/
def runSample (material : List (String × Term)) : Deed Datum := do
  let source ← sourceOf (.generated material)
  let (messages, extensions) ← ofResult source.structures
  return .list [messages, extensions]

/-- Compares two values. -/
def runEqual (first second : Term) : Deed Datum := do
  let first ← datumOf first
  return .flag (first.same (← datumOf second))

/-- Reads a variable of the environment. -/
def runReadVariable (name : Datum) : Deed Datum := do
  let name ← ofResult (environmentText name)
  return .ofText? (Keyed.get? name (← get).world.environment)

/-- Reads a file. -/
def runOctets (path : String) : Deed Datum := do
  return .octets (← onWorld (Transcript.contentOf (.text path)))

/-- Lists all files and directories. -/
def runList : Deed Datum := do
  return .list ((← get).world.files.listing.map .text)

/-- Runs the command line. -/
def runCommandLine (arguments : List String) (source : SourceTerm) : Deed Result := do
  let source ← sourceOf source
  return .report (← onWorld (CommandLine.execute arguments source))

/-- A datum as the result of a step. -/
def answer (deed : Deed Datum) : Deed Result := do
  return .datum (← deed)

/-- The result of a step. -/
def run : Step → Deed Result
  | .call content => answer (runCall content)
  | .bind name value => answer (Deed.bindName name value)
  | .assign name key value => answer (Deed.assign name key value)
  | .setField name field value => answer (Deed.setField name field value)
  | .removeField name field => answer (Deed.removeField name field)
  | .property name field => answer (Deed.property name field)
  | .equal first second => answer (runEqual first second)
  | .setVariable name value => answer (runSetVariable name value)
  | .removeVariable name => answer (runRemoveVariable name)
  | .readVariable name => answer (runReadVariable name)
  | .overwrite path data => answer (runOverwrite path data)
  | .octets path => answer (runOctets path)
  | .makeDirectory path => answer (runMakeDirectory path)
  | .list => answer runList
  | .configureLogging settings => answer (runConfigureLogging settings)
  | .sample material => answer (runSample material)
  | .commandLine arguments source => runCommandLine arguments source

end Step

namespace Session

/-- The answer of a request, and the session after it. -/
def answer (session : Session) (request : Request) : Answer × Session :=
  let world := { session.world with listening := request.listening, log := [] }
  let (outcome, after) := StateT.run (ExceptT.run request.step.run) { session with world }
  (⟨outcome, after.world.log.reverse⟩, after)

/-- The answers of requests one after the other, and the session after them. -/
def run (session : Session) : List Request → List Answer × Session
  | [] => ([], session)
  | first :: rest =>
    let (answer, after) := session.answer first
    let (answers, last) := run after rest
    (answer :: answers, last)

end Session

end TlsTranscript
