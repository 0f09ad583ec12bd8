import LineShell.Script.Expansion
import LineShell.Script.Options
import LineShell.Script.Words

/-!
The builtins that change variables, arguments and options of a script.  Each
answers with a status.
-/
namespace LineShell.Script

/-- A text with quotes around it, as a script can read it: single ones, and
double ones around single ones. -/
def quoteFrom : Nat → Text → Text
  | 0, _ => []
  | fuel + 1, text =>
    let plain := text.takeWhile (· ≠ '\'')
    let rest := text.drop plain.length
    let quotes := rest.takeWhile (· = '\'')
    let left := rest.drop quotes.length
    '\'' :: plain ++ ['\''] ++
      (if quotes.isEmpty then [] else '"' :: quotes ++ ['"']) ++
      if left.isEmpty then [] else quoteFrom fuel left

def quote (text : Text) : Text := quoteFrom (text.length + 1) text

namespace State

/-- A list of variables that a script can read, each after a label. -/
def list (state : State) (label : Text) (counts : Binding → Bool) : Text :=
  let chosen := state.bindings.filter fun entry => counts entry.2
  (chosen.mergeSort fun first second =>
    Expansion.isOrdered first.1 second.1).flatMap
    fun (name, binding) =>
      label ++ name ++
        ((binding.value.map fun value => '=' :: quote value).getD []) ++ ['\n']

/-- The variables that keep their properties even without a value in all
scripts. -/
def lasting : List Text :=
  ["IFS".toList, "MAIL".toList, "MAILPATH".toList, "PATH".toList, "PS1".toList,
   "PS2".toList, "PS4".toList, "OPTIND".toList]

/-- Whether a variable keeps its properties even without a value, as those do
that have values of their own in a function that runs. -/
def lasts (state : State) (name : Text) : Bool :=
  lasting.contains name || state.frames.any fun frame => frame.any fun kept =>
    match kept with
    | .variable other _ => other = name
    | .options _ => false

end State

namespace Variables

/-- A name and the value after an equals sign, if there is one. -/
def split (argument : Text) : Text × Option Text :=
  let name := argument.takeWhile (· ≠ '=')
  (name, if name.length < argument.length then
    some (argument.drop (name.length + 1))
  else none)

/-- Stops at a text that cannot be the name of a variable. -/
def demandName (name : Text) : Action Unit := do
  if !Words.isName name then
    Action.refuse (name ++ ": bad variable name".toList)

/-- Sets the variable that an argument names before an equals sign, if there is
one. -/
def assignNamed (argument value : Text) : Action Unit := do
  let (name, _) := split argument
  demandName name
  Action.assign name value

/-- Sets a variable by a text with a name before an equals sign; a name alone is
only bound. -/
def define (argument : Text) (change : Binding → Binding) : Action Unit := do
  let (name, value?) := split argument
  let old := (← get).binding? name
  match value?, old with
  | none, some binding =>
    modify fun state => state.bind name (some (change binding))
  | _, _ =>
    demandName name
    match value? with
    | some value => Action.assign name value
    | none => Action.demand name
    modify fun state =>
      let old := (state.binding? name).getD ⟨none, state.has 'a', false⟩
      state.bind name (some (change old))

/-- Gives variables a property, or lists those that have it. -/
def mark (label : String) (counts : Binding → Bool) (change : Binding → Binding)
    (arguments : List Text) : Action Nat := do
  let (options, rest) := Options.upToMistake ['p'] [] none arguments
  let names ← if options.isEmpty then Action.demandOptions rest else pure []
  if names.isEmpty then
    Action.finish ((← get).list (label.toList ++ [' ']) counts) 0
  else
    for name in names do define name change
    return 0

/-- Lets variables be handed over to other programs. -/
def handOver (arguments : List Text) : Action Nat :=
  mark "export" Binding.exported (fun binding =>
    { binding with exported := true }) arguments

/-- Lets variables no longer be changed. -/
def fix (arguments : List Text) : Action Nat :=
  mark "readonly" Binding.fixed (fun binding => { binding with fixed := true })
    arguments

/-- Takes a variable away; the one that numbers options must have a number. -/
def remove (name : Text) : Action Unit := do
  demandName name
  Action.demand name
  if name = "OPTIND".toList then Action.refuse "Illegal number: ".toList
  modify fun state =>
    let kept := (state.binding? name).bind fun binding =>
      if state.lasts name then some { binding with value := none } else none
    let known := if name = "PATH".toList then [] else state.known
    { state with known := known }.bind name kept

def unset (arguments : List Text) : Action Nat := do
  let (options, names) ← Action.demandOptions
    (Options.read "vf".toList [] arguments)
  for name in names do
    if (options.getLast?.map Prod.fst) = some 'f' then
      modify fun state =>
        { state with functions := state.functions.filter fun entry =>
          entry.1 ≠ name }
    else
      remove (split name).1
  return 0

/-- Lets something come back at the end of the function that runs. -/
def keep (kept : State → Kept) : Action Unit := modify fun state =>
  match state.frames with
  | [] => state
  | frame :: rest => { state with frames := (kept state :: frame) :: rest }

/-- Lets the value that a variable has now come back at the end of the function
that runs. -/
def keepVariable (name : Text) : Action Unit :=
  keep fun state => .variable name (state.binding? name)

/-- Gives variables values of their own in the function that runs; a dash stands
for the options.  That something with a value cannot be a variable is only
noticed when that ends. -/
def makeLocal (arguments : List Text) : Action Nat := do
  if (← get).frames.isEmpty then Action.refuse "not in a function".toList
  for argument in arguments do
    if argument = ['-'] then
      keep fun state => .options state.options
    else
      let (name, value?) := split argument
      if value?.isNone then demandName name
      keepVariable name
      if Words.isName name then define argument id
  return 0

/-- Starts a range in which variables can have values of their own. -/
def enter : Action Unit :=
  modify fun state => { state with frames := [] :: state.frames }

def leave : Action Unit := modify fun state =>
  match state.frames with
  | [] => state
  | frame :: rest =>
    let restore (changed : State) : Kept → State
      | .variable name binding => changed.bind name binding
      | .options letters => { changed with options := letters }
    frame.foldl restore { state with frames := rest }

/-- Does something in a range in which variables can have values of their
own. -/
def ranged (action : Action Unit) : Action Unit := do
  enter
  let result ← Action.attempt action
  let names := ((← get).frames.headD []).filterMap fun kept =>
    match kept with
    | .variable name _ => some name
    | .options _ => none
  leave
  match result with
  | .error (.finish ending) => throw (.finish ending)
  | .error .fault => throw .fault
  | .error jump => do
    names.forM demandName
    throw jump
  | .ok () => names.forM demandName

/-- What arguments with options have led to so far. -/
structure Asked where
  /-- Whether a command is asked for. -/
  command : Bool
  /-- Whether a list of the options could not be written. -/
  lost : Bool
  deriving DecidableEq, Repr

/-- Changes the options that one argument asks for.  The answer has the
arguments that are left. -/
def changeOptions (calling value : Bool) :
    Text → List Text → Asked → Action (List Text × Asked)
  | [], rest, asked => return (rest, asked)
  | letter :: letters, rest, asked => do
    if letter = 'c' && calling then
      changeOptions calling value letters rest { asked with command := true }
    else if letter = 'o' then
      match rest with
      | [] =>
        let written ← Action.say (Options.list (← get).options (!value))
        changeOptions calling value letters
          [] { asked with lost := asked.lost || !written }
      | name :: others =>
        match Options.settings.find? fun setting => setting.1.toList = name with
        | some (_, found) =>
          modify fun state =>
            { state with options := Options.change state.options found value }
          changeOptions calling value letters others asked
        | none => Action.refuse ("Illegal option -o ".toList ++ name)
    else if Options.letters.contains letter || (letter = 'l' && calling) then
      modify fun state =>
        { state with options := Options.switch state.options letter value }
      changeOptions calling value letters rest asked
    else
      Action.refuse ("Illegal option -".toList ++ [letter])

/-- Changes the options that arguments ask for, in a call of the program that
runs scripts or inside a script.  The answer has the arguments that are left. -/
def readOptions (calling : Bool) :
    Nat → List Text → Asked → Action (List Text × Asked)
  | 0, arguments, asked => return (arguments, asked)
  | _, [], asked => return ([], asked)
  | fuel + 1, argument :: rest, asked => do
    match argument with
    | ['-'] =>
      if !calling then
        modify fun state =>
          { state with options := state.options.filter fun c =>
            c ≠ 'x' && c ≠ 'v' }
      return (rest, asked)
    | ['-', '-'] =>
      if !calling && rest.isEmpty then
        modify fun state => { state with arguments := [] }
      return (rest, asked)
    | '-' :: letters =>
      let (left, found) ← changeOptions calling true letters rest asked
      readOptions calling fuel left found
    | '+' :: letters =>
      let (left, found) ← changeOptions calling false letters rest asked
      readOptions calling fuel left found
    | _ => return (argument :: rest, asked)

/-- Gives up the control of jobs where it is asked for, as there is no terminal.
A copy of the script would not take it. -/
def giveUpControl : Action Unit := do
  let state ← get
  if state.has 'm' && !state.copied then
    Action.complain "can't access tty; job control turned off".toList
    modify fun changed =>
      { changed with options := Options.change changed.options 'm' false }

def set (arguments : List Text) : Action Nat := do
  if arguments.isEmpty then
    Action.finish ((← get).list [] fun binding => binding.value.isSome) 0
  else
    let (left, asked) ← readOptions false (arguments.length + 1) arguments
      ⟨false, false⟩
    giveUpControl
    if !left.isEmpty then
      modify fun state => { state with arguments := left, reached := (1, none) }
    if asked.lost then Action.lose 0 else return 0

def shift (arguments : List Text) : Action Nat := do
  let count ←
    match arguments with
    | [] => pure 1
    | argument :: _ => Action.natural argument
  if (← get).arguments.length < count then
    Action.refuse "can't shift that many".toList
  modify fun state =>
    { state with arguments := state.arguments.drop count, reached := (1, none) }
  return 0

/-- The letters of one line and what follows it, and whether the line ends at
all.  Without `raw` a backslash joins lines, and other characters after it stand
for themselves; no letter stands where two lines are joined. -/
def lineOf (raw : Bool) (text : Text) : List (Option Letter) × Text × Bool :=
  match text with
  | [] => ([], [], false)
  | '\n' :: rest => ([], rest, true)
  | '\\' :: rest =>
    if raw then
      let (letters, left, ended) := lineOf raw rest
      (some ⟨'\\', false⟩ :: letters, left, ended)
    else
      match rest with
      | [] => ([], [], false)
      | next :: others =>
        let (letters, left, ended) := lineOf raw others
        ((if next = '\n' then none else some ⟨next, true⟩) :: letters, left,
          ended)
  | c :: rest =>
    let (letters, left, ended) := lineOf raw rest
    (some ⟨c, false⟩ :: letters, left, ended)

/-- A line on its way to variables. -/
structure Cutting where
  /-- The fields that are whole. -/
  finished : List Text
  current : Text
  /-- The number of variables for which there is no whole field yet, unless only
  the last one is left and what it gets is more than one field. -/
  wanted : Nat
  /-- The length of the last field without what is dropped at its end. -/
  kept : Option Nat
  /-- Whether white space has parted two fields directly before. -/
  loose : Bool

namespace Cutting

/-- Takes a letter or the place where two lines are joined.  A letter that
stands for itself does not count as something after white space. -/
def add (separators : Text) (cutting : Cutting) : Option Letter → Cutting
  | none => { cutting with loose := false }
  | some letter =>
    let c := letter.char
    let longer := cutting.current ++ [c]
    let parts := separators.contains c
    let blank := parts && " \t\n".toList.contains c
    if letter.literal then
      { cutting with current := longer, loose := false }
    else if cutting.wanted = 0 then
      if blank then
        { cutting with
          current := longer
          kept := cutting.kept <|> some cutting.current.length }
      else
        { cutting with
          current := longer
          kept := if parts && cutting.loose then cutting.kept else none
          loose := false }
    else if cutting.loose then
      if blank then cutting
      else { cutting with current := if parts then [] else [c], loose := false }
    else if !parts then
      { cutting with current := longer }
    else if blank && cutting.current.isEmpty then
      cutting
    else if cutting.wanted = 1 then
      { cutting with
        current := longer
        wanted := 0
        kept := some cutting.current.length
        loose := blank }
    else
      { cutting with
        finished := cutting.finished ++ [cutting.current]
        current := []
        wanted := cutting.wanted - 1
        loose := blank }

/-- The fields in the end; an empty one at the end is none. -/
def fields (cutting : Cutting) : List Text :=
  let last := (cutting.kept.map cutting.current.take).getD cutting.current
  cutting.finished ++ if last.isEmpty then [] else [last]

end Cutting

/-- The fields of a line for so many variables; the last one gets the rest. -/
def fieldsFor (separators : Text) (count : Nat)
    (letters : List (Option Letter)) : List Text :=
  let found :=
    (letters.foldl (Cutting.add separators) ⟨[], [], count, none, false⟩).fields
  found ++ List.replicate (count - found.length) []

/-- The length of the shortest start of a text with so many characters other
than NUL. -/
def lengthWith : Nat → Text → Nat
  | _, [] => 0
  | 0, _ => 0
  | count + 1, c :: rest =>
    if c = '\x00' then lengthWith (count + 1) rest + 1
    else lengthWith count rest + 1

def read (arguments : List Text) : Action Nat := do
  let (options, names) ← Action.demandOptions
    (Options.read ['r'] ['p'] arguments)
  if names.isEmpty then Action.refuse "arg count".toList
  let state ← get
  let place? := state.descriptors.lookup 0
  let content := (place?.map state.remaining).getD []
  let text := content.filter (· ≠ '\x00')
  let raw := options.any fun option => option.1 = 'r'
  let (letters, rest, ended) := lineOf raw text
  if let some place := place? then
    modify fun state =>
      state.pass place (lengthWith (text.length - rest.length) content)
  let fields := fieldsFor state.separators names.length letters
  for (name, field) in names.zip fields do
    assignNamed name field
  return if ended then 0 else 1

/-- How an option of arguments is found: its letter, the rest of its argument if
there is some, and the number of the next argument; none at the end of the
options. -/
def nextOption (arguments : List Text) (reached : Nat × Option Nat) :
    Option (Char × Text × Nat) × Nat :=
  let (index, offset?) := reached
  let inside : Text :=
    match offset?, if 1 < index then arguments[index - 2]? else none with
    | some offset, some argument => argument.drop offset
    | _, _ => []
  match inside with
  | letter :: rest => (some (letter, rest, index), index)
  | [] =>
    match arguments[index - 1]? with
    | some ['-', '-'] => (none, index + 1)
    | some ('-' :: letter :: rest) =>
        (some (letter, rest, index + 1), index + 1)
    | _ => (none, index)

/-- Whether an option is among those that are described, and whether it has a
value. -/
def described (letter : Char) : Text → Option Bool
  | [] => none
  | c :: rest =>
    let valued := rest.head? = some ':'
    if c = letter then some valued
    else described letter (if valued then rest.tail else rest)
termination_by description => description.length
decreasing_by
  have shorter := List.length_tail (l := rest)
  split <;> rw [List.length_cons] <;> omega

def readOption (arguments : List Text) : Action Nat := do
  match arguments with
  | description :: name :: given =>
    let state ← get
    let all := if given.isEmpty then state.arguments else given
    let start :=
      if all.length + 1 < state.reached.1 then (1, none) else state.reached
    let quiet := description.head? = some ':'
    let letters := if quiet then description.tail else description
    modify fun state => { state with reached := (1, none) }
    let settle (letter : Char) (index : Nat) (offset : Option Nat)
      (status : Nat) : Action Nat := do
      Action.demand "OPTIND".toList
      modify fun state => state.assign "OPTIND".toList (Nat.toDigits 10 index)
      assignNamed name [letter]
      modify fun state => { state with reached := (index, offset) }
      return status
    let tell (letter : Char) (words : Text) : Action Unit := do
      if quiet then
        Action.assign "OPTARG".toList [letter]
      else
        modify fun state => (state.write 2 (words ++ ['\n'])).2
        remove "OPTARG".toList
    match nextOption all start with
    | (none, index) => settle '?' index none 1
    | (some (letter, rest, index), _) =>
      let offset :=
        (all[index - 2]?).map fun argument => argument.length - rest.length
      match described letter letters with
      | none =>
        tell letter ("Illegal option -".toList ++ [letter])
        settle '?' index offset 0
      | some false =>
        Action.assign "OPTARG".toList []
        settle letter index offset 0
      | some true =>
        match rest, all[index - 1]? with
        | [], none =>
          tell letter ("No arg for -".toList ++ letter :: " option".toList)
          settle (if quiet then ':' else '?') index none 0
        | [], some value =>
          Action.assign "OPTARG".toList value
          settle letter (index + 1) none 0
        | value, _ =>
          Action.assign "OPTARG".toList value
          settle letter index none 0
  | _ => Action.refuse "Usage: getopts optstring var [arg...]".toList

end Variables

end LineShell.Script
