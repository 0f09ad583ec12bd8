import LineShell.CommandLine.Piped
import LineShell.Screen
import LineShell.Settings
import LineShell.Text.Similarity

/-!
The command line of the program: its arguments, and a whole run on a text as
standard input.

The option `--log-level` may stand before the command `shell` or after it;
before it, it counts only where no command follows.
-/
namespace LineShell.CommandLine

/-- What is wrong with the arguments. -/
inductive UsageError where
  | unknownOption (name : Text)
  | missingValue (option : Text)
  | unknownCommand (name : Text)
  | extraArguments (arguments : List Text)
  /-- An error where the word that was looked at last is close to the
  command. -/
  | misspelt (error : UsageError)
  deriving DecidableEq, Repr

/-- Arguments with the option taken out. -/
structure Parsed where
  level : Option Text
  rest : List Text
  deriving DecidableEq, Repr

def levelOption : Text := "--log-level".toList

def commandName : Text := "shell".toList

/-- Control characters as escapes with two digits. -/
def visible (text : Text) : Text :=
  text.flatMap fun c =>
    if c.toNat < 0x20 ∨ 0x7F ≤ c.toNat ∧ c.toNat < 0xA0 then
      "\\x".toList ++ Text.Quoted.hexadecimal 2 c.toNat
    else
      [c]

namespace UsageError

/-- The words of the error before control characters are made visible. -/
def words : UsageError → Text
  | .unknownOption name => "No such option: ".toList ++ name
  | .missingValue option => "Option ".toList ++ Text.Quoted.write option ++
      " requires an argument.".toList
  | .unknownCommand name =>
      "No such command ".toList ++ Text.Quoted.write name ++ ['.']
  | .extraArguments arguments => "Got unexpected extra argument(s) (".toList ++
      Text.joinWith [' '] arguments ++ [')']
  | .misspelt error =>
      Text.dropEndWhile (· = '.') error.words ++ ". Did you mean ".toList ++
      Text.Quoted.write commandName ++ ['?']

/-- The words of the error; a misspelt command is followed by the proposal of
the right one. -/
def message (error : UsageError) : Text := visible error.words

/-- An error in the search for a command, where these arguments have not been
taken yet. -/
def before (remaining : List Text) (error : UsageError) : UsageError :=
  if remaining.head?.any (Text.areSimilar commandName) then .misspelt error
  else error

end UsageError

/-- Whether an argument is an option: a dash with something after it. -/
def isOption : Text → Bool
  | '-' :: _ :: _ => true
  | _ => false

/-- The name of an option, without a value that is attached to it by an equals
sign. -/
def optionName (argument : Text) : Text := argument.takeWhile (· ≠ '=')

/-- The value that is attached to an option. -/
def attached? (argument : Text) : Option Text :=
  match argument.dropWhile (· ≠ '=') with
  | [] => none
  | _ :: value => some value

/-- The complaint about an option that does not exist; of short options the
first letter counts. -/
def unknown (argument : Text) : UsageError :=
  match argument with
  | '-' :: '-' :: _ => .unknownOption (optionName argument)
  | _ => .unknownOption (argument.take 2)

/-- Takes the options out of the arguments.  Two dashes end the options.  Other
arguments end them as well, unless options may stand between arguments.  An
error comes with the arguments after it. -/
def parse (mixed : Bool) (parsed : Parsed) :
    List Text → Except (UsageError × List Text) Parsed
  | [] => .ok parsed
  | argument :: rest =>
    if argument = "--".toList then
      .ok { parsed with rest := parsed.rest ++ rest }
    else if isOption argument then
      if optionName argument = levelOption then
        match attached? argument with
        | some value => parse mixed { parsed with level := some value } rest
        | none =>
          match rest with
          | [] => .error (.missingValue levelOption, [])
          | value :: others =>
              parse mixed { parsed with level := some value } others
      else
        .error (unknown argument, rest)
    else if mixed then
      parse mixed { parsed with rest := parsed.rest ++ [argument] } rest
    else
      .ok { parsed with rest := parsed.rest ++ argument :: rest }

/-- The error for arguments of which the first is no command.  It may be an
option that stands where none can; then the options are taken out before the
next word counts as what was meant. -/
def noCommand (name : Text) (arguments : List Text) : UsageError :=
  match parse false ⟨none, []⟩ arguments with
  | .ok parsed => (UsageError.unknownCommand name).before parsed.rest
  | .error (error, remaining) => error.before remaining

def level? (arguments : List Text) : Except UsageError (Option Text) := do
  let outer ← (parse false ⟨none, []⟩ arguments).mapError Prod.fst
  match outer.rest with
  | [] => return outer.level
  | name :: rest =>
    if name = commandName then
      let inner ← (parse true ⟨none, []⟩ rest).mapError Prod.fst
      if inner.rest.isEmpty then
        return inner.level else throw (.extraArguments inner.rest)
    else
      throw (noCommand name outer.rest)

/-- Why a run of the program ends without a status. -/
inductive Stop where
  | usage (error : UsageError)
  | settings (invalid : Settings.Invalid)
  | level (unknown : UnknownLevel)
  /-- The size of the screen is no number. -/
  | screen (fault : Text.Numeral.Fault)
  | failure (failure : Failure)
  deriving DecidableEq, Repr

/-- A run of the program: its status or why it has none, what it wrote, and the
machine after it. -/
structure Session where
  ending : Except Stop Int
  console : Console
  machine : Machine

namespace Stop

def message : Stop → Text
  | .usage error => error.message
  | .settings invalid => invalid.message
  | .level unknown => unknown.message
  | .screen fault => fault.message
  | .failure cause => cause.message

end Stop

def variableFile : Path := Path.ofText ".env".toList

/-- The text of the file with variables; without such a file there is none. -/
def variableText (machine : Machine) : Except Refusal Text :=
  match machine.examine variableFile with
  | .ok (_, .file content _) => .ok content
  | .ok _ => .ok []
  | .error refusal => if refusal.isAbsence then .ok [] else .error refusal

/-- The settings for a run, where `content` is the text of the file with
variables. -/
def settings (content : Text) (environment : List (Text × Text))
    (level : Option Text) : Except Settings.Invalid Settings :=
  Settings.load
    ⟨level.toList.map fun text => ("log_level".toList, .text text), environment,
      EnvFile.values environment content⟩

/-- The shell at the start of a run. -/
def startShell (programs : Programs) (machine : Machine)
    (environment : List (Text × Text)) (input : Text) (console : Console)
    (journal : Journal) : Shell where
  session := ⟨⟨.single, machine.directory⟩, Builtin.names, environment⟩
  machine := machine
  programs := programs
  input := input
  console := console
  reported := []
  journal := journal

def setup (settings : Settings) (screen : Screen) : Setup :=
  ⟨⟨settings.builtinRedirection, settings.strictHome⟩,
    if screen.isVisible then .displayed else .hidden, settings.prompt⟩

/-- How a run of the program ends after the run of its shell.  A missing home
directory that ends the shell is told, and the status is one. -/
def conclude (screen : Screen) (ending : RunEnd) (shell : Shell) : Session :=
  match ending with
  | .status status => ⟨.ok status, shell.console, shell.machine⟩
  | .failed .homeNotSet =>
    ⟨.ok 1, (shell.say (screen.alert "Error:".toList
      Failure.homeNotSet.message)).console, shell.machine⟩
  | .failed failure => ⟨.error (.failure failure), shell.console, shell.machine⟩

/-- Runs the shell with its settings, after what is on the console already. -/
def runShell (programs : Programs) (machine : Machine)
    (environment : List (Text × Text)) (input : Text) (console : Console)
    (settings : Settings) : Session :=
  match Journal.silent.configure settings.logLevel with
  | (.error unknown, _) => ⟨.error (.level unknown), console, machine⟩
  | (.ok (), journal) =>
    match Screen.ofEnvironment environment with
    | .error fault => ⟨.error (.screen fault), console, machine⟩
    | .ok screen =>
      let (ending, after) := serve (setup settings screen) []
        (startShell programs machine environment input console journal)
      conclude screen ending after

def complain (content : Text) : Console :=
  (EnvFile.complaints content).foldl
    (fun console complaint =>
      console.write .errors (complaint ++ ['\n'])) Console.empty

/-- Runs the program on a text as standard input, which it shares with the
programs that it starts. -/
def run (programs : Programs) (machine : Machine)
    (environment : List (Text × Text)) (arguments : List Text) (input : Text) :
    Session :=
  match level? arguments with
  | .error error => ⟨.error (.usage error), Console.empty, machine⟩
  | .ok level =>
    match variableText machine with
    | .error refusal =>
        ⟨.error (.failure (.refused refusal)), Console.empty, machine⟩
    | .ok content =>
      match settings content environment level with
      | .error invalid =>
          ⟨.error (.settings invalid), complain content, machine⟩
      | .ok settings => runShell programs machine environment input
          (complain content) settings

end LineShell.CommandLine
