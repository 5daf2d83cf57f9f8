import TlsTranscript.Text.DecimalDigit
import TlsTranscript.Text.Quoted

/-!
# Arguments of the command line

Two options are known: one asks for help, the other names a transcript. A long
option may be cut short while it stays the only one, and may carry its value
behind an equals sign. First every argument is classified, then the options act
in their order; help acts at once, and what no option takes is reported at the
end.
-/

namespace TlsTranscript.CommandLine

/-- The options. -/
inductive OptionName where
  /-- Asks for help. -/
  | help
  /-- Names a transcript. -/
  | transcript
  deriving DecidableEq

/-- The spellings of the options in the order in which they are searched. -/
def spellings : List (String × OptionName) :=
  [("-h", .help), ("--help", .help), ("--transcript", .transcript)]

/-- The option with a spelling. -/
def optionOf? (spelling : List Char) : Option OptionName :=
  (spellings.find? fun entry => entry.1.toList == spelling).map Prod.snd

/-- What an argument is. -/
inductive Word where
  /-- A value. -/
  | value
  /-- The mark behind which all arguments are values. -/
  | separator
  /-- An option that is not known. -/
  | unknown
  /-- An option in full length or cut short, with a value that may be attached
  to it. -/
  | long (option : OptionName) (attached : Option (List Char))
  /-- The letter that asks for help, alone. -/
  | letter
  /-- The letter that asks for help with more behind it; an equals sign next to
  the letter does not count. -/
  | letters (attached : List Char)
  deriving DecidableEq

/-- What is wrong with arguments. -/
inductive UsageError where
  /-- An argument that may stand for any of these options. -/
  | ambiguous (argument : String) (candidates : List String)
  /-- The option for a transcript has no value. -/
  | noValue
  /-- The option for help has a value. -/
  | unwantedValue (value : String)
  /-- Arguments that no option takes. -/
  | unrecognized (arguments : List String)
  deriving DecidableEq

/-- The wording of an error. -/
def UsageError.message : UsageError → String
  | .ambiguous argument candidates =>
    "ambiguous option: " ++ argument ++ " could match " ++ ", ".intercalate candidates
  | .noValue => "argument --transcript: expected one argument"
  | .unwantedValue value =>
    "argument -h/--help: ignored explicit argument " ++ Text.quoted value
  | .unrecognized arguments => "unrecognized arguments: " ++ " ".intercalate arguments

/-- Whether a text is decimal digits, perhaps with a point among them and digits
behind it. -/
def isUnsignedNumber (text : List Char) : Bool :=
  match text.dropWhile Text.isDecimalDigit with
  | [] => !text.isEmpty
  | c :: rest => c == '.' && !rest.isEmpty && rest.all Text.isDecimalDigit

/-- Whether an argument looks like a negative number; one line feed may follow
the number. -/
def isNegativeNumber : List Char → Bool
  | '-' :: rest =>
    isUnsignedNumber rest ||
      (rest.getLast? == some '\n' && isUnsignedNumber rest.dropLast)
  | _ => false

/-- What stands before the first equals sign, and what follows it. -/
def splitAtEquals (text : List Char) : List Char × Option (List Char) :=
  match text.dropWhile (· != '=') with
  | [] => (text, none)
  | _ :: value => (text.takeWhile (· != '='), some value)

/-- An argument that is no known option. -/
def classifyOther (argument : List Char) : Word :=
  if isNegativeNumber argument || argument.contains ' ' then .value else .unknown

/-- An argument that starts with two dashes and is no spelling of an option. -/
def classifyLong (argument : List Char) : Except UsageError Word :=
  let (start, attached) := splitAtEquals argument
  match spellings.filter fun entry => start.isPrefixOf entry.1.toList with
  | [] => .ok (classifyOther argument)
  | [(_, option)] => .ok (.long option attached)
  | candidates => .error (.ambiguous (String.ofList argument) (candidates.map Prod.fst))

/-- What an argument is, the separator apart. -/
def classify (argument : List Char) : Except UsageError Word :=
  match argument with
  | '-' :: '-' :: _ =>
    match optionOf? (splitAtEquals argument).1 with
    | some option => .ok (.long option (splitAtEquals argument).2)
    | none => classifyLong argument
  | ['-', 'h'] => .ok .letter
  | '-' :: 'h' :: '=' :: attached => .ok (.letters attached)
  | '-' :: 'h' :: attached => .ok (.letters attached)
  | '-' :: _ :: _ => .ok (classifyOther argument)
  | _ => .ok .value

/-- What the arguments are. -/
def classifyAll : List String → Except UsageError (List (String × Word))
  | [] => .ok []
  | argument :: rest =>
    if argument = "--" then
      .ok ((argument, .separator) :: rest.map fun value => (value, .value))
    else
      match classify argument.toList with
      | .error fault => .error fault
      | .ok word =>
        match classifyAll rest with
        | .error fault => .error fault
        | .ok words => .ok ((argument, word) :: words)

/-- What a command line asks for. -/
inductive Request where
  /-- The help text. -/
  | help
  /-- A run, perhaps with a transcript. -/
  | run (transcript : Option String)
  deriving DecidableEq

/-- What letters behind the letter for help ask for: each of them has to be that
letter again. -/
def lettersRequest : List Char → Except UsageError Request
  | ['h'] => .ok .help
  | 'h' :: rest => lettersRequest rest
  | rest => .error (.unwantedValue (String.ofList rest))

/-- What classified arguments ask for, given the transcript and the arguments
that no option took so far. -/
def requestFrom (transcript : Option String) (extra : List String) :
    List (String × Word) → Except UsageError Request
  | [] => if extra.isEmpty then .ok (.run transcript) else .error (.unrecognized extra)
  | (_, .long .help none) :: _ => .ok .help
  | (_, .long .help (some value)) :: _ => .error (.unwantedValue (String.ofList value))
  | (_, .letter) :: _ => .ok .help
  | (_, .letters attached) :: _ => lettersRequest attached
  | (_, .long .transcript (some value)) :: rest =>
    requestFrom (some (String.ofList value)) extra rest
  | (_, .long .transcript none) :: (value, .value) :: rest =>
    requestFrom (some value) extra rest
  | (_, .long .transcript none) :: _ => .error .noValue
  | (argument, _) :: rest => requestFrom transcript (extra ++ [argument]) rest

/-- What arguments ask for. -/
def requestOf (arguments : List String) : Except UsageError Request :=
  match classifyAll arguments with
  | .error fault => .error fault
  | .ok words => requestFrom none [] words

/-- The first line of every help and error text. -/
def usage : String := "usage: render_sample.py [-h] [--transcript TRANSCRIPT]\n"

/-- The help text. -/
def helpText : String :=
  usage ++ "\nRender a sample TLS handshake\n\noptions:\n" ++
    "  -h, --help            show this help message and exit\n" ++
    "  --transcript TRANSCRIPT\n" ++
    "                        also append the rendering to this transcript file\n"

/-- The text that reports an error. -/
def errorText (fault : UsageError) : String :=
  usage ++ "render_sample.py: error: " ++ fault.message ++ "\n"

end TlsTranscript.CommandLine
