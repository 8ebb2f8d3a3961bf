import MappedCoverage.Config.Load
import MappedCoverage.OutputFormat
import MappedCoverage.Text.Pieces

/-!
# Arguments of the command line

Options have a long name, and some a short one of a single letter. A value follows its option, or
stands after `=` behind a long name, or directly behind a short one. An option may be given once.
Arguments are read from left to right, and the first one that is misused, or that asks for the help
or the version, decides.
-/

namespace MappedCoverage.CommandLine

/-- What the command is asked to do. -/
structure Settings where
  config : Option String := none
  output : Option OutputFormat := none
  listTests : Bool := false
  annotate : Option String := none
  check : Option String := none
  verbose : Bool := false

/-- Why nothing is done with a configuration. -/
inductive Halt where
  | help
  | version
  | misuse
deriving DecidableEq

/-- The file that the configuration is read from. -/
def Settings.configFile (settings : Settings) : String :=
  settings.config.getD Config.defaultFile

/-- The format that a configuration is written in. -/
def Settings.format (settings : Settings) : OutputFormat :=
  settings.output.getD .initial

/-- An option that takes a value. -/
inductive ValueOption where
  | config
  | output
  | annotate
  | check
deriving DecidableEq

/-- The option of a long name. -/
def ValueOption.ofName? (name : String) : Option ValueOption :=
  match name with
  | "config" => some .config
  | "output" => some .output
  | "annotate" => some .annotate
  | "check" => some .check
  | _ => none

/-- The option of a letter. -/
def ValueOption.ofLetter? (letter : Char) : Option ValueOption :=
  if letter = 'c' then some .config else if letter = 'o' then some .output else none

/-- Sets a value that is not set yet. -/
def once {α : Type} (old : Option α) (value : α) : Except Halt (Option α) :=
  match old with
  | none => .ok (some value)
  | some _ => .error .misuse

/-- Sets a file name, which is never empty. -/
def fileOnce (old : Option String) (value : String) : Except Halt (Option String) :=
  if value.isEmpty then .error .misuse else once old value

/-- The settings with the value of an option. -/
def Settings.withValue (settings : Settings) (option : ValueOption) (value : String) :
    Except Halt Settings :=
  match option with
  | .config => do return { settings with config := ← fileOnce settings.config value }
  | .annotate => do return { settings with annotate := ← fileOnce settings.annotate value }
  | .check => do return { settings with check := ← fileOnce settings.check value }
  | .output =>
      match OutputFormat.named? value with
      | some format => do return { settings with output := ← once settings.output format }
      | none => .error .misuse

/-- The settings with a flag, or what the flag asks for instead. -/
def Settings.withFlag (settings : Settings) (name : String) : Except Halt Settings :=
  match name with
  | "list-tests" =>
      if settings.listTests then .error .misuse else .ok { settings with listTests := true }
  | "verbose" =>
      if settings.verbose then .error .misuse else .ok { settings with verbose := true }
  | "help" => .error .help
  | "version" => .error .version
  | _ => .error .misuse

/-- What an argument is by its first characters. -/
inductive Shape where
  /-- Everything after it is no option. -/
  | separator
  | long (name : String) (value : Option String)
  | short (letter : Char) (rest : List Char)
  | plain

/-- A text up to its first `=`, and what follows that. -/
def splitValue (text : List Char) : String × Option String :=
  match text.span (· ≠ '=') with
  | (name, []) => (String.ofList name, none)
  | (name, _ :: value) => (String.ofList name, some (String.ofList value))

/-- The shape of an argument; a single dash is plain. -/
def Shape.ofArgument (argument : String) : Shape :=
  match argument.toList with
  | ['-', '-'] => .separator
  | '-' :: '-' :: text => .long (splitValue text).1 (splitValue text).2
  | '-' :: letter :: rest => .short letter rest
  | _ => .plain

/-- Whether an argument may be the value of the option in front of it. -/
def Shape.isPlain : Shape → Bool
  | .plain => true
  | _ => false

/-- What stands directly behind a letter, where one `=` in front of it does not count. -/
def attached? : List Char → Option String
  | [] => none
  | '=' :: value => some (String.ofList value)
  | value => some (String.ofList value)

/-- Reads arguments one after another. -/
def readArguments (settings : Settings) : List String → Except Halt Settings
  | [] => .ok settings
  | argument :: rest =>
      let withValue := fun (option : ValueOption) (value : Option String) =>
        match value, rest with
        | some value, rest => do
            let settings ← settings.withValue option value
            readArguments settings rest
        | none, [] => .error .misuse
        | none, value :: rest =>
            if (Shape.ofArgument value).isPlain then do
              let settings ← settings.withValue option value
              readArguments settings rest
            else .error .misuse
      match Shape.ofArgument argument with
      | .plain => .error .misuse
      | .separator => if rest.isEmpty then .ok settings else .error .misuse
      | .long name value =>
          match ValueOption.ofName? name, value with
          | some option, value => withValue option value
          | none, none => do
              let settings ← settings.withFlag name
              readArguments settings rest
          | none, some _ => .error .misuse
      | .short letter text =>
          match ValueOption.ofLetter? letter with
          | some option => withValue option (attached? text)
          | none =>
              if letter = 'h' then .error .help
              else if letter = 'V' then .error .version
              else .error .misuse

end MappedCoverage.CommandLine
