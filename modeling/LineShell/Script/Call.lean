import LineShell.Launch
import LineShell.Script.Start
import LineShell.Script.Target

/-!
Simple commands.  The first word is the name of a function, of a builtin, or of
a program, which is looked up in this order; a program that runs scripts runs to
its end as a part of the same state.
-/
namespace LineShell.Script

namespace Runner

def callLimit : Nat := 1000

def callFunction (run : Runner) (tested : Bool) (body : Tree)
    (arguments : List Text) : Action Unit := do
  let old ← get
  if callLimit ≤ old.calls then
    Action.refuse "Maximum function recursion depth (1000) reached".toList
  set { old with
    arguments := arguments
    loops := 0
    reached := (1, none)
    calls := old.calls + 1 }
  let result ← Action.attempt (run tested body)
  modify fun state =>
    { state with
      arguments := old.arguments
      loops := old.loops
      reached := old.reached
      calls := old.calls }
  match result with
  | .ok () => return
  | .error (.back _) => return
  | .error jump => throw jump

/-- The arguments of the program in the end, if a file is started; a file
without a format is a script. -/
def resolve (state : State) (arguments : List Text) (path : Text) :
    Except SystemError (List Text) :=
  let texts := arguments.map Text.Bytes.decode
  let file := Text.Bytes.decode path
  match Launch.resolve ⟨texts, state.environment⟩ state.machine
    state.writtenFiles file with
  | .error .badFormat => .ok ("/bin/sh".toList :: file :: texts.drop 1)
  | result => result

/-- Tells how to leave a script that is to go on at its end; in the end that is
given up. -/
def remind : Action Unit := do
  if (← get).has 'I' then
    let words := "\nUse \"exit\" to leave shell.\n".toList
    modify fun state => (state.write 2 (List.replicate 50 words).flatten).2

/-- Runs the program that runs scripts up to its end, with its name before its
arguments. -/
def program (run : Runner) (arguments : List Text) : Action Unit := do
  let given := arguments.drop 1
  let (left, asked) ← Variables.readOptions true (given.length + 1) given
    ⟨false, false⟩
  let command := asked.command
  let input (state : State) : Option Nat := state.descriptors.lookup 0
  match left with
  | [] =>
    if command then Action.refuse "-c requires an argument".toList
    modify fun state =>
      { state with options := Options.change state.options 's' true }
    Variables.giveUpControl
    commands run false input
    remind
  | first :: rest =>
    if command then
      modify fun state =>
        { state with name := rest.headD state.name, arguments := rest.drop 1 }
      Variables.giveUpControl
      text run false false first
      if (← get).has 's' then
        commands run false input
        remind
    else if (← get).has 's' then
      modify fun state => { state with arguments := left }
      Variables.giveUpControl
      commands run false input
      remind
    else
      let place ← openForReading first
      modify fun state => { state with name := first, arguments := rest }
      Variables.giveUpControl
      commands run false fun _ => some place
      remind

/-- Runs the program that runs scripts: how it ends, and the state in the
end. -/
def execute (run : Runner) (state : State) (arguments : List Text) :
    Ending × State :=
  let whole : Action Ending := do
    conclude run
      (← Action.attempt (program run (arguments.map Text.Bytes.encode)))
  match whole.run state with
  | (.ok ending, after) => (ending, after)
  | (.error _, after) => (.exited after.status, after)

/-- Starts the first file along some paths that can be started, and waits for
its end. -/
def start (run : Runner) (arguments : List Text) :
    SystemError → List Text → Action (Except SystemError Ending)
  | error, [] => return .error error
  | error, path :: rest => do
    let state ← get
    match resolve state arguments path with
    | .ok final =>
      let child :=
        State.start state.machine state.written state.opened state.descriptors
        state.legacy final state.environment
      let (ending, after) := execute run child final
      set { state with
        jobs := Job.pass state.jobs
        machine := { after.machine with directory := state.machine.directory }
        written := after.written
        opened := after.opened }
      return .ok ending
    | .error found =>
      let absent := found = .noEntry || found = .notDirectory
      start run arguments (if absent then error else found) rest

def failureStatus : SystemError → Nat
  | .noEntry => 127
  | .notDirectory => 127
  | .linkLoop => 127
  | .nameTooLong => 127
  | _ => 126

def complainOf (name : Text) (error : SystemError) : Action Unit :=
  Action.complain (name ++ ": ".toList ++ Builtins.reason error)

/-- Runs a program that is looked up in directories, and waits for its end. -/
def callProgram (run : Runner) (directories : Text) (arguments : List Text) :
    Action Unit := do
  let name := arguments.headD []
  let state ← get
  let (paths, error) :=
    if name.contains '/' then ([name], SystemError.noEntry)
    else Places.programs state directories name
  if paths.isEmpty then
    complainOf name error
    Action.leaveStatus 127
  else
    if !name.contains '/' then
      modify fun changed => changed.remember name (paths.headD [])
    match ← start run arguments .noEntry paths with
    | .ok ending =>
      Action.tellEnd ending
      Action.leaveStatus ending.status
    | .error error =>
      complainOf name error
      Action.leaveStatus (failureStatus error)

def exec (run : Runner) (arguments : List Text) : Action Nat := do
  match arguments with
  | [] => return 0
  | name :: _ =>
    let directories := (← get).searchPath
    let paths :=
      if name.contains '/' then [name] else Places.candidates directories name
    match ← start run arguments .noEntry paths with
    | .ok ending =>
      modify fun state => { state with traps := [] }
      throw (.finish ending)
    | .error error =>
      complainOf name error
      throw (.finish (.exited (failureStatus error)))

def runFile (run : Runner) (arguments : List Text) : Action Nat := do
  let (_, rest) ← Action.demandOptions (Options.read [] [] arguments)
  match rest with
  | [] => return 0
  | name :: _ =>
    let state ← get
    let path ←
      if name.contains '/' then
        pure name
      else
        match Places.files state Node.isFile .noEntry
            (Places.candidates state.searchPath name) with
        | (path :: _, _) => pure path
        | ([], _) => Action.refuse (name ++ ": not found".toList)
    let place ← openForReading path
    modify fun changed => { changed with command := some path }
    match ← Action.attempt (commands run false fun _ => some place) with
    | .ok () => return (← get).status
    | .error (.back _) => return (← get).status
    | .error jump => throw jump

/-- Runs a builtin.  A mistake in one of the special kind ends the script. -/
def callBuiltin (run : Runner) (tested special : Bool) (name : Text)
    (arguments : List Text) : Action Unit := do
  let outer := (← get).command
  modify fun state => { state with command := some name }
  let action : Action Nat :=
    match String.ofList name with
    | "eval" => do
      text run false tested (Text.joinWith [' '] arguments)
      return (← get).status
    | "exec" => exec run arguments
    | "." => runFile run arguments
    | _ =>
      match Builtins.named? name with
      | some builtin => builtin arguments
      | none => return 0
  let result ← Action.attempt action
  modify fun state => { state with command := outer }
  match result with
  | .ok status => Action.leaveStatus status
  | .error .fault => if special then throw .fault
  | .error jump => throw jump

/-- A call: its words, whether functions count, and the directories in which it
is looked up if these are others than usual. -/
structure Call where
  words : List Text
  plain : Bool
  directories : Option Text
  deriving DecidableEq, Repr

namespace Call

/-- The words after the options of `command`, if these only say how what follows
is looked up; the answer tells whether it is looked up in the usual
directories. -/
def afterOptions : List Text → Option (List Text × Bool)
  | [] => none
  | word :: rest =>
    match word with
    | ['-', '-'] => if rest.isEmpty then none else some (rest, false)
    | '-' :: c :: letters =>
      if (c :: letters).all (· = 'p') then
        (afterOptions rest).map fun found => (found.1, true)
      else none
    | _ => some (word :: rest, false)

def inner (state : State) : Nat → Call → Call
  | 0, call => call
  | fuel + 1, call =>
    match call.words with
    | name :: rest =>
      if name = "command".toList &&
        (call.plain || (state.functions.lookup name).isNone) then
        match afterOptions rest with
        | some (words, usual) =>
          inner state fuel
            ⟨words, true, if usual then some Builtins.standardDirectories
              else call.directories⟩
        | none => call
      else
        call
    | [] => call

end Call

/-- Whether words so far are a call of a builtin that assigns to variables. -/
def assigns (state : State) (words : List Text) : Bool :=
  match (Call.inner state words.length ⟨words, false, none⟩).words with
  | name :: _ => ["export".toList, "readonly".toList, "local".toList,
      "alias".toList].contains name
  | [] => false

/-- Expands the words of a command.  An assignment after a builtin that assigns
is one text. -/
def expand (run : Runner) : List Text → List Word → Action (List Text)
  | found, [] => return found
  | found, word :: rest => do
    match if assigns (← get) found then Read.assignment? word else none with
    | some (name, value) =>
      let text ← Expansion.textOf run.output true value
      expand run (found ++ [name ++ '=' :: text]) rest
    | none => expand run (found ++ (← Expansion.ofWord run.output word)) rest

def trace (run : Runner) (place? : Option Nat) (texts : List Text) :
    Action Unit := do
  let state ← get
  match place? with
  | some place =>
    if state.has 'x' then
      let mark := (state.value? "PS4".toList).getD []
      let expanded : Action Text := do
        match (Read.parts.pieces .text).run
          { Source.below mark with texts := state.texts } with
        | .ok (word, source) => do
          modify fun changed =>
            { changed with
              texts := source.texts
              options := changed.options.filter (· ≠ 'x') }
          return Item.text
            (← Expansion.ofPieces run.output true false false word)
        | .error (line, flaw) => do
          modify fun changed => { changed with line := line }
          Action.refuse flaw.message
      let shown ←
        match ← Action.attempt expanded with
        | .ok text => pure text
        | .error .fault => pure mark
        | .error jump => throw jump
      modify fun changed =>
        { changed with options := state.options, status := state.status }
      modify fun changed =>
        (changed.writeAt place (shown ++ Text.joinWith [' '] texts ++ ['\n'])).2
  | none => return

/-- Runs a simple command: its words are expanded, its redirections are set up,
its assignments are made, and what its first word means is called. -/
def simple (run : Runner) (tested : Bool) (assignments : List (Text × Word))
    (words : List Word) (targets : List (Nat × Target)) : Action Unit := do
  modify fun state => { state with inner := 0 }
  let texts ← expand run [] words
  let state ← get
  let call := Call.inner state texts.length ⟨texts, false, none⟩
  let name := call.words.headD []
  let function? := if call.plain then none else state.functions.lookup name
  let first := texts.headD []
  let isFunction := function?.isSome
  let special := !isFunction && Builtins.isSpecial first
  let ownValues := !texts.isEmpty && !special
  let executes := !isFunction && name = "exec".toList
  let place? := state.descriptors.lookup 2
  (if ownValues then Variables.ranged else id) do
    redirected run targets executes (if special then throw .fault
      else pure ()) do
      let made ← assignments.mapM fun (target, word) => do
        let value ← Expansion.textOf run.output true word
        if ownValues then Variables.keepVariable target
        Action.assign target value
        if ownValues || (executes && 1 < call.words.length) then
          modify fun changed => changed.hand target
        return target ++ '=' :: value
      trace run place? (made ++ texts)
      match call.words with
      | [] => Action.leaveStatus (← get).inner
      | _ :: arguments =>
        match function? with
        | some body => callFunction run tested body arguments
        | none =>
          if Builtins.isName name then
            callBuiltin run tested special name arguments
          else
            callProgram run (call.directories.getD (← get).searchPath)
              call.words

end Runner

end LineShell.Script
