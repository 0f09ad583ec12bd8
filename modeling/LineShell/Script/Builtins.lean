import LineShell.Script.Background
import LineShell.Script.Condition
import LineShell.Script.Format
import LineShell.Script.Mode
import LineShell.Script.Places
import LineShell.Script.Reader
import LineShell.Script.Signal
import LineShell.Script.Variables

/-!
The builtins of scripts that run no commands.  Each answers with a status; what
it writes is written as a whole at its end.
-/
namespace LineShell.Script

/-- What a name means where a command is wanted. -/
inductive Meaning where
  | keyword
  | alias (text : Text)
  | function
  | builtin (special : Bool)
  | file (path : Text)
  | missing (error : SystemError)
  deriving DecidableEq, Repr

namespace Builtins

/-- The builtins that functions can be named like. -/
def ordinaryNames : List String :=
  ["[", "alias", "bg", "cd", "chdir", "command", "echo", "false", "fg",
   "getopts", "hash", "jobs", "kill", "printf", "pwd", "read", "test", "true",
   "type", "ulimit", "umask", "unalias", "wait"]

/-- Whether a name is that of a builtin of the special kind, where a mistake
ends the script. -/
def isSpecial (name : Text) : Bool := Read.specialNames.any (·.toList = name)

def isName (name : Text) : Bool :=
  isSpecial name || ordinaryNames.any (·.toList = name)

/-- What is said about an error of the system where a command is wanted. -/
def reason : SystemError → Text
  | .noEntry => "not found".toList
  | .notDirectory => "not found".toList
  | error => error.message

def meaning (state : State) (directories name : Text) : Meaning :=
  if Lexeme.keywords.any (·.toList = name) then .keyword
  else if let some text := state.aliases.lookup name then .alias text
  else if name.contains '/' then
    match state.examine name with
    | .ok _ => .file name
    | .error error => .missing error
  else if (state.functions.lookup name).isSome then .function
  else if isName name then .builtin (isSpecial name)
  else
    match Places.programs state directories name with
    | (path :: _, _) => .file path
    | ([], error) => .missing error

/-- The drawer, of so many, in which what belongs to a name is kept. -/
def drawer (count : Nat) (name : Text) : Nat :=
  let first := (name.head?.map Char.toNat).getD 0
  name.foldl (fun sum c => sum + c.toNat) (16 * first) % count

/-- What belongs to names, drawer by drawer. -/
def byDrawer {α : Type} (count : Nat) (entries : List (Text × α)) :
    List (Text × α) :=
  entries.mergeSort fun a b => drawer count a.1 ≤ drawer count b.1

/-- A text that stands for a name, as a script can read it. -/
def aliasText (name text : Text) : Text := name ++ '=' :: quote text ++ ['\n']

/-- Sets the texts that stand for names, or tells them, drawer by drawer. -/
def replaceNames (arguments : List Text) : Action Nat := do
  let mut told := []
  let mut status := 0
  if arguments.isEmpty then
    told := (byDrawer 39 (← get).aliases).flatMap fun (name, text) =>
      aliasText name text
  for argument in arguments do
    let name := argument.take 1 ++ (argument.drop 1).takeWhile (· ≠ '=')
    if name.length < argument.length then
      modify fun state =>
        let entry := (name, argument.drop (name.length + 1))
        { state with aliases :=
            if (state.aliases.lookup name).isSome then
              state.aliases.map fun old => if old.1 = name then entry else old
            else
              state.aliases ++ [entry] }
    else
      match (← get).aliases.lookup name with
      | some text => told := told ++ aliasText name text
      | none =>
        status := 1
        modify fun state =>
          (state.write 2 ("alias: ".toList ++ name ++ " not found\n".toList)).2
  Action.finish told status

/-- Lets names no longer stand for texts. -/
def restoreNames (arguments : List Text) : Action Nat := do
  let (options, rest) := Options.upToMistake ['a'] [] none arguments
  if !options.isEmpty then
    modify fun state => { state with aliases := [] }
    return 0
  else
    let names ← Action.demandOptions rest
    let mut status := 0
    for name in names do
      let state ← get
      if (state.aliases.lookup name).isSome then
        set { state with aliases := state.aliases.filter fun entry =>
          entry.1 ≠ name }
      else
        status := 1
        set (state.write 2
          ("unalias: ".toList ++ name ++ " not found\n".toList)).2
    return status

/-- What is told about a name, and the status of that.  A program that has been
found is remembered, unless it was to be looked up in certain directories. -/
def describe (directories? : Option Text) (verbose : Bool) (name : Text) :
    Action (Text × Nat) := do
  let state ← get
  let told (words : String) (brief : Text) : Action (Text × Nat) :=
    return (if verbose then name ++ words.toList ++ ['\n'] else brief ++ ['\n'],
      0)
  match meaning state (directories?.getD state.searchPath) name with
  | .keyword => told " is a shell keyword" name
  | .alias text =>
    return (if verbose then name ++ " is an alias for ".toList ++ text ++ ['\n']
      else "alias ".toList ++ aliasText name text, 0)
  | .function => told " is a shell function" name
  | .builtin true => told " is a special shell builtin" name
  | .builtin false => told " is a shell builtin" name
  | .file path => do
    if directories?.isNone && !name.contains '/' &&
      (state.known.lookup name).isNone then
      set (state.remember name path)
    let tracked := (state.known.lookup name).isSome
    let words :=
      if tracked then " is a tracked alias for ".toList else " is ".toList
    return (if verbose then name ++ words ++ path ++ ['\n'] else path ++ ['\n'],
      0)
  | .missing _ =>
      return (if verbose then name ++ ": not found\n".toList else [], 127)

def tellMeanings (names : List Text) : Action Nat := do
  let told ← names.mapM (describe none true)
  Action.finish (told.flatMap Prod.fst)
    (told.foldl (fun status one => Nat.lor status one.2) 0)

def standardDirectories : Text :=
  "/usr/local/sbin:/usr/local/bin:/usr/sbin:/usr/bin:/sbin:/bin".toList

/-- Tells what one name means, if options ask for that. -/
def tellCommand (arguments : List Text) : Action Nat := do
  let (options, names) ← Action.demandOptions
    (Options.read "pvV".toList [] arguments)
  let letters := options.map Prod.fst
  let directories? :=
    if letters.contains 'p' then some standardDirectories else none
  match letters.all (· = 'p'), names with
  | false, name :: _ =>
    let (text, status) ← describe directories? (letters.contains 'V') name
    Action.finish text status
  | _, _ => return 0

/-- Looks a program up and remembers where it is, unless its name means
something else: why there is none. -/
def seek (name : Text) : Action (Option SystemError) := do
  let state ← get
  if (state.functions.lookup name).isSome || isName name then return none
  match Places.programs state state.searchPath name with
  | (path :: _, _) =>
    set (state.remember name path)
    return none
  | ([], error) => return some error

/-- Looks programs up, and complains about names that mean nothing; or tells
what has been found, or forgets it. -/
def look (arguments : List Text) : Action Nat := do
  let (options, names) ← Action.demandOptions (Options.read ['r'] [] arguments)
  if !options.isEmpty then
    modify fun state => { state with known := [] }
    return 0
  else if names.isEmpty then
    let line (known : Known) : Text :=
      known.path ++ (if known.stale then ['*'] else []) ++ ['\n']
    Action.finish ((byDrawer 31 (← get).known).flatMap fun entry =>
      line entry.2) 0
  else
    let mut status := 0
    for name in names do
      if !name.contains '/' then
        if let some error ← seek name then
          Action.complain (name ++ ": ".toList ++ reason error)
          status := 1
    return status

def echo (arguments : List Text) : Action Nat := do
  let bare := arguments.head? = some "-n".toList
  let joined :=
    Text.joinWith [' '] (if bare then arguments.drop 1 else arguments)
  let (text, whole) := Format.unescape joined.length joined
  Action.finish (if whole && !bare then text ++ ['\n'] else text) 0

def printf (arguments : List Text) : Action Nat := do
  let (_, rest) ← Action.demandOptions (Options.read [] [] arguments)
  match rest with
  | [] => Action.refuse "usage: printf format [arg ...]".toList
  | format :: values =>
    let (progress, stop?) := Format.write format values
    progress.complaints.forM Action.complain
    let give (words : Text) : Action Nat := do
      Action.complain words
      let _ ← Action.say progress.written
      return 2
    match stop? with
    | some (.invalid directive) =>
        give (directive ++ ": invalid directive".toList)
    | some .unfinished => give "missing format character".toList
    | _ => Action.finish progress.written (if progress.complaints.isEmpty then 0
        else 1)

def test (bracketed : Bool) (words : List Text) : Action Nat := do
  let machine := (← get).machine
  match if bracketed then Condition.checkBracketed machine words
    else Condition.check machine false words with
  | .ok truth => return if truth then 0 else 1
  | .error fault => Action.refuse fault.words

def kills (state : State) (signal : Nat) : Bool :=
  signal = 9 ||
    (!state.ignores signal && (state.traps.lookup signal).isNone &&
      !Signal.isHarmless signal)

/-- Sends a signal to the script itself.  What is to be done for it is done
before the next command.
-/
def receive (signal : Nat) : Action Unit := do
  let state ← get
  if !state.copied && kills state signal then throw (.finish (.killed signal))
  else set { state with pending := state.pending ++ [signal] }

/-- Sends a signal to processes, of which those of the script itself are
known. -/
def send (signal : Nat) : List Text → Action Nat
  | [] => return 0
  | target :: rest => do
    let state ← get
    let called := target.head? = some '%'
    let group := called || target.head? = some '-'
    let number ←
      if called then
        let (_, job) ← Background.called target
        pure job.process
      else
        Action.natural (if group then target.drop 1 else target)
    if number = 0 || (number = State.selfNumber && !group) then
      if signal ≠ 0 then receive signal
      send signal rest
    else if (state.jobs.filterMap id).any (fun job =>
      job.process = number && !job.ended) && !group
    then
      send signal rest
    else
      Action.complain "No such process\n".toList
      let _ ← send signal rest
      return 1

def killUsage : Text :=
  "Usage: kill [-s sigspec | -signum | -sigspec] [pid | job]... or\nkill -l [exitstatus]".toList

def listSignals (arguments : List Text) : Action Nat := do
  match arguments with
  | [] =>
    let names := (List.range Signal.count).drop 1
    let lines := names.flatMap fun signal => Signal.name signal ++ ['\n']
    Action.finish ('0' :: '\n' :: lines) 0
  | argument :: _ =>
    let number ← Action.natural argument
    let signal := if 128 < number then number - 128 else number
    if 0 < signal && signal < Signal.count then
      Action.finish (Signal.name signal ++ ['\n']) 0
    else
      Action.refuse
        ("invalid signal number or exit status: ".toList ++ argument)

def kill (arguments : List Text) : Action Nat := do
  let direct? :=
    match arguments with
    | ('-' :: name) :: _ => Signal.ofText? 1 name
    | _ => none
  match direct?, arguments with
  | _, [] => Action.refuse killUsage
  | some _, [_] => Action.refuse killUsage
  | some signal, _ :: targets => send signal targets
  | none, first :: _ =>
    if first.head? = some '-' then
      let (options, rest) := Options.upToMistake ['l'] ['s'] none arguments
      let signals ← (options.filter fun option => option.1 = 's').mapM
        fun (_, name) =>
        match Signal.ofText? 1 name with
        | some signal => pure signal
        | none =>
            Action.refuse ("invalid signal number or name: ".toList ++ name)
      let targets ← Action.demandOptions rest
      let listed := options.any fun option => option.1 = 'l'
      if listed && signals.isEmpty then listSignals targets
      else if listed || targets.isEmpty then Action.refuse killUsage
      else send (signals.getLast?.getD 15) targets
    else
      send 15 arguments

/-- Sets what is done for one signal; nothing is set for a signal that is to
have its usual effect.
-/
def setTrap (action? : Option Text) (signal : Nat) : Action Unit :=
  modify fun state =>
  let others := state.traps.filter fun trap => trap.1 ≠ signal
  { state with
    traps := (action?.map fun action => (signal, action)).toList ++ others }

def trap (arguments : List Text) : Action Nat := do
  let (_, rest) ← Action.demandOptions (Options.read [] [] arguments)
  match rest with
  | [] =>
    let traps := (← get).traps
    let lines := (List.range Signal.count).flatMap fun signal =>
      match traps.lookup signal with
      | some action =>
        "trap -- ".toList ++ quote action ++ ' ' :: Signal.name signal ++ ['\n']
      | none => []
    Action.finish lines 0
  | first :: names =>
    let usual := names.isEmpty || (Signal.ofDigits? first).isSome
    let action? := if usual || first = ['-'] then none else some first
    let rec each : List Text → Action Nat
      | [] => return 0
      | name :: others => do
        match Signal.ofText? 0 name with
        | some signal =>
          setTrap action? signal
          each others
        | none =>
          modify fun state =>
            (state.write 2 ("trap: ".toList ++ name ++ ": bad trap\n".toList)).2
          return 1
    each (if usual then rest else names)

def mask (arguments : List Text) : Action Nat := do
  let (options, rest) ← Action.demandOptions (Options.read ['S'] [] arguments)
  let old := (← get).heritage.mask
  match rest with
  | [] =>
    let shown :=
      if options.isEmpty then Mode.maskText old else Mode.text (Mode.all - old)
    Action.finish (shown ++ ['\n']) 0
  | argument :: _ =>
    let new ←
      if argument.head?.any Char.isDigit then
        if argument.all Format.isOctal then
          pure ((Arithmetic.digits 8 argument).1 % (Mode.all + 1))
        else
          Action.refuse ("Illegal number: ".toList ++ argument)
      else
        match Mode.after? (Mode.all - old) argument with
        | some mode => pure (Mode.all - mode)
        | none => Action.refuse ("Illegal mode: ".toList ++ argument)
    modify fun state =>
      { state with heritage := { state.heritage with mask := new } }
    return 0

/-- Tells or moves limits, of the two values of each the one that is asked for
last. -/
def limit (arguments : List Text) : Action Nat := do
  let letters := 'H' :: 'S' :: 'a' :: Limit.letters
  let (options, rest) ← Action.demandOptions (Options.read letters [] arguments)
  let asked := options.map Prod.fst
  let side? :=
    (asked.filter fun letter => letter = 'H' || letter = 'S').getLast?
  let chosen := ((asked.filter Limit.letters.contains).getLast?).getD 'f'
  let all := asked.contains 'a'
  let limits := (← get).heritage.limits
  let shown (limit : Limit) : Text :=
    Limit.text limit.unit (if side? = some 'H' then limit.highest
      else limit.current) ++ ['\n']
  match rest, limits.find? fun limit => limit.letter = chosen with
  | value :: more, some limit =>
    if all || !more.isEmpty then Action.refuse "too many arguments".toList
    match Limit.ofText? limit.unit value with
    | none => Action.refuse "bad number".toList
    | some value =>
      match limit.change (side? ≠ some 'H') (side? ≠ some 'S') value with
      | .error words =>
        Action.refuse ("error setting limit (".toList ++ words ++ [')'])
      | .ok changed =>
        let moved := limits.map fun other =>
          if other.letter = chosen then changed else other
        modify fun state =>
          { state with heritage := { state.heritage with limits := moved } }
        return 0
  | _, found? =>
    if all then
      Action.finish (limits.flatMap fun limit =>
        let label := limit.label.toList
        label ++ List.replicate (20 - label.length) ' ' ++ ' ' :: shown limit) 0
    else
      Action.finish ((found?.map shown).getD []) 0

/-- Goes out of loops, or to their next round. -/
def skip (jump : Nat → Jump) (arguments : List Text) : Action Nat := do
  let count ←
    match arguments with
    | [] => pure 1
    | argument :: _ => do
      let number ← Action.natural argument
      if number = 0 then Action.refuse ("Illegal number: ".toList ++ argument)
      pure number
  let loops := (← get).loops
  if loops = 0 then
    return 0
  else
    modify fun state => { state with status := 0 }
    throw (jump (min count loops))

/-- Goes to the end of a function or a file. -/
def goBack (arguments : List Text) : Action Nat := do
  match arguments with
  | [] => throw (.back false)
  | argument :: _ =>
    let status ← Action.natural argument
    modify fun state => { state with status := status }
    throw (.back true)

def exit (arguments : List Text) : Action Nat := do
  let status ←
    match arguments with
    | [] => do
      let state ← get
      pure (state.saved.getD state.status)
    | argument :: _ => Action.natural argument
  throw (.finish (.exited status))

def named? (name : Text) : Option (List Text → Action Nat) :=
  match String.ofList name with
  | ":" => some fun _ => return 0
  | "true" => some fun _ => return 0
  | "false" => some fun _ => return 1
  | "[" => some (test true)
  | "test" => some (test false)
  | "echo" => some echo
  | "printf" => some printf
  | "cd" => some Places.change
  | "chdir" => some Places.change
  | "pwd" => some Places.tell
  | "kill" => some kill
  | "trap" => some trap
  | "umask" => some mask
  | "wait" => some Background.await
  | "break" => some (skip .leave)
  | "continue" => some (skip .next)
  | "return" => some goBack
  | "exit" => some exit
  | "export" => some Variables.handOver
  | "readonly" => some Variables.fix
  | "unset" => some Variables.unset
  | "local" => some Variables.makeLocal
  | "set" => some Variables.set
  | "shift" => some Variables.shift
  | "read" => some Variables.read
  | "getopts" => some Variables.readOption
  | "type" => some tellMeanings
  | "command" => some tellCommand
  | "hash" => some look
  | "times" => some fun _ =>
    Action.finish "0m0.000000s 0m0.000000s\n0m0.000000s 0m0.000000s\n".toList 0
  | "ulimit" => some limit
  | "jobs" => some Background.tell
  | "fg" => some Background.resume
  | "bg" => some Background.resume
  | "alias" => some replaceNames
  | "unalias" => some restoreNames
  | _ => none

end Builtins

end LineShell.Script
