import TlsTranscript.Failure
import TlsTranscript.Log
import TlsTranscript.Number.Binary64
import TlsTranscript.Rendered

/-!
# Worlds and actions

A world is what an operation may read and change: files, the environment, the
time and the log. An action changes a world and may fail; what it changed before
the failure stays.
-/

namespace TlsTranscript

/-- The time of a clock. -/
inductive Moment where
  /-- A whole number of seconds. -/
  | whole (seconds : Int)
  /-- A number of seconds in binary64. -/
  | fractional (seconds : Binary64)

namespace Moment

/-- The whole seconds of a time, toward zero. -/
def seconds : Moment → Except Failure Int
  | .whole seconds => .ok seconds
  | .fractional (.nan _) => .error (.refused .timeNotANumber)
  | .fractional (.infinite _) => .error (.overflow .infiniteTime)
  | .fractional (.finite negative mantissa exponent) =>
    .ok (Binary64.whole negative mantissa exponent)

end Moment

/-- The variables of an environment by their names. -/
abbrev Environment := Keyed String String

/-- What an operation may read and change. -/
structure World where
  /-- The files. -/
  files : FileTree := []
  /-- The environment. -/
  environment : Environment := []
  /-- The time. -/
  now : Moment := .whole 0
  /-- The log, newest record first. -/
  log : List LogRecord := []
  /-- Whether somebody reads the log. -/
  listening : Bool := true

/-- A change of a world that may fail. -/
abbrev Action := ExceptT Failure (StateM World)

namespace Action

variable {α : Type}

/-- The result of an action in a world, and the world after it. -/
def runIn (action : Action α) (world : World) : Except Failure α × World :=
  StateT.run (ExceptT.run action) world

/-- A result that is known without a world. -/
def ofResult (result : Except Failure α) : Action α :=
  ExceptT.mk (pure result)

/-- Records added to the log, the oldest one first. -/
def note (records : List LogRecord) : Action Unit :=
  modify fun world => { world with log := records.reverse ++ world.log }

/-- The text of a rendering, its records added to the log. -/
def emit (rendered : Rendered) : Action String := do
  note rendered.log
  return rendered.text

end Action

end TlsTranscript
